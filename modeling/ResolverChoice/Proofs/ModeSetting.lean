/-
The parts of a mode setting.

A word and a level may stand on either side of the plus sign, and a level is read back from
the digits that it is written in.  Any digit begins a level, but only the digits of ASCII are
read as its number.  So a part may be refused although it begins with a digit: where that
digit is of another script, or where there are more digits than a number may have.
-/

import ResolverChoice.Proofs.ModeOverride
import ResolverChoice.Proofs.RefusedOption
import ResolverChoice.Proofs.TextCuts

namespace ResolverChoice

/-! ### Numbers in digits -/

theorem isAsciiDigit_char {character : Char} (digit : character.isDigit = true) :
    (Symbol.char character).isAsciiDigit = true := by
  obtain ⟨least, greatest⟩ := Char.isDigit_iff_toNat.mp digit
  exact Bool.and_eq_true_iff.mpr ⟨decide_eq_true least, decide_eq_true greatest⟩

/-- The digits of ASCII count for what they count for in a written number. -/
theorem decimalNumber_ofChars {digits : List Char}
    (ascii : ∀ character ∈ digits, character.isDigit = true) :
    decimalNumber (Text.ofChars digits) = Nat.ofDigitChars 10 digits 0 := by
  -- On the digits, from the most significant one; what is counted already may be any number.
  have counted (start : Nat) : (Text.ofChars digits).foldl
      (fun number digit => 10 * number + digit.decimalValue?.getD 0) start =
        Nat.ofDigitChars 10 digits start := by
    induction digits generalizing start with
    | nil => rfl
    | cons first rest ih =>
        obtain ⟨digit, others⟩ := List.forall_mem_cons.mp ascii
        have value := Symbol.decimalValue?_of_isAsciiDigit (isAsciiDigit_char digit)
        rw [Text.ofChars, List.map_cons, List.foldl_cons, value, Nat.ofDigitChars_cons]
        exact ih others _
  exact counted 0

namespace Mode

/-- The level in decimal, without zeros in front. -/
def writtenLevel (level : Nat) : Text :=
  Text.ofString (toString level)

theorem writtenLevel_eq (level : Nat) :
    writtenLevel level = Text.ofChars (Nat.toDigits 10 level) := by
  unfold writtenLevel Text.ofString
  rw [Nat.toString_eq_repr, Nat.toList_repr]

theorem isDigit_of_mem_toDigits {level : Nat} :
    ∀ character ∈ Nat.toDigits 10 level, character.isDigit = true :=
  fun _ member => Nat.isDigit_of_mem_toDigits (by decide) (by decide) member

theorem decimalNumber_writtenLevel (level : Nat) :
    decimalNumber (writtenLevel level) = level := by
  rw [writtenLevel_eq, decimalNumber_ofChars isDigit_of_mem_toDigits]
  exact Nat.ofDigitChars_ten_toDigits

theorem isLevel_writtenLevel {level : Nat}
    (short : (toString level).length ≤ maximumDigits) : IsLevel (writtenLevel level) := by
  refine ⟨?_, ?_, ?_⟩
  · rw [writtenLevel_eq]
    exact List.map_eq_nil_iff.not.mpr Nat.toDigits_ne_nil
  · intro symbol member
    rw [writtenLevel_eq] at member
    obtain ⟨character, listed, rfl⟩ := List.mem_map.mp member
    exact isAsciiDigit_char (isDigit_of_mem_toDigits character listed)
  · unfold writtenLevel Text.ofString Text.ofChars
    rwa [List.length_map, String.length_toList]

/-! ### Parts -/

/-- The setting as a whole where no plus sign is in it, and otherwise what stands before and
behind the first one. -/
inductive IsPart : Text → Text → Prop where
  | whole {setting : Text} (unmarked : .char '+' ∉ setting) : IsPart setting setting
  | before {first second : Text} (unmarked : .char '+' ∉ first) :
      IsPart (first ++ .char '+' :: second) first
  | behind {first second : Text} (unmarked : .char '+' ∉ first) :
      IsPart (first ++ .char '+' :: second) second

def BeginsWithDigit (part : Text) : Prop :=
  ∃ first ∈ part.head?, first.isDigit = true

instance (part : Text) : Decidable (BeginsWithDigit part) :=
  inferInstanceAs (Decidable (∃ first ∈ part.head?, first.isDigit = true))

/-- A part that is neither empty nor a level. -/
def NamesMode (part : Text) : Prop :=
  part ≠ [] ∧ ¬BeginsWithDigit part

instance (part : Text) : Decidable (NamesMode part) :=
  inferInstanceAs (Decidable (_ ∧ _))

/-- Why a part is refused. -/
inductive IsRefusedPart (part : Text) : Prop where
  | otherDigit {first : Symbol} (begins : part.head? = some first)
      (digit : first.isDigit = true) (notAscii : first.isAsciiDigit = false)
  | tooLong (long : maximumDigits < (part.takeWhile Symbol.isAsciiDigit).length)

section

variable {setting part first second : Text}

theorem isPart_iff_mem_parts : IsPart setting part ↔ part ∈ parts setting := by
  have paired {first second : Text} (unmarked : .char '+' ∉ first) :
      parts (first ++ .char '+' :: second) = [first, second] := by
    unfold parts
    rw [Text.cutAt_of_first unmarked]
    rfl
  have alone {setting : Text} (unmarked : .char '+' ∉ setting) :
      parts setting = [setting] := by
    unfold parts
    rw [Text.cutAt_of_not_mem unmarked]
    rfl
  constructor
  · intro isPart
    cases isPart with
    | whole unmarked =>
        rw [alone unmarked]
        exact List.mem_singleton_self setting
    | before unmarked =>
        rw [paired unmarked]
        exact List.mem_cons_self
    | behind unmarked =>
        rw [paired unmarked]
        exact List.mem_cons_of_mem _ (List.mem_singleton_self _)
  · intro listed
    by_cases marked : .char '+' ∈ setting
    · obtain ⟨first, second, rfl, unmarked⟩ := List.eq_append_cons_of_mem marked
      rw [paired unmarked, List.mem_cons, List.mem_singleton] at listed
      rcases listed with rfl | rfl
      · exact .before unmarked
      · exact .behind unmarked
    · rw [alone marked, List.mem_singleton] at listed
      rw [listed]
      exact .whole marked

theorem not_isReadablePart_iff : ¬IsReadablePart part ↔ IsRefusedPart part := by
  cases part with
  | nil =>
      refine iff_of_false (fun unreadable => unreadable trivial) ?_
      rintro (⟨begins, _, _⟩ | long)
      · cases begins
      · exact Nat.not_lt_zero _ long
  | cons first rest =>
      constructor
      · intro unreadable
        obtain ⟨digit, refused⟩ := Classical.not_imp.mp unreadable
        cases ascii : first.isAsciiDigit with
        | false => exact .otherDigit rfl digit ascii
        | true => exact .tooLong (Nat.not_le.mp fun short => refused ⟨ascii, short⟩)
      · intro refused readable
        cases refused with
        | otherDigit begins digit notAscii =>
            obtain rfl := Option.some.inj begins
            rw [(readable digit).1] at notAscii
            cases notAscii
        | tooLong long =>
            -- The digits of ASCII that are too many begin with one, which is a digit.
            cases ascii : first.isAsciiDigit with
            | false =>
                rw [List.takeWhile_cons_of_neg (Bool.eq_false_iff.mp ascii)] at long
                exact Nat.not_lt_zero _ long
            | true =>
                have decimal : first.isDecimal = true := by
                  unfold Symbol.isDecimal
                  rw [Symbol.decimalValue?_of_isAsciiDigit ascii]
                  rfl
                have short := (readable (Symbol.isDigit_of_isDecimal decimal)).2
                exact Nat.not_lt.mpr short long

/-- A part changes nothing, or the level if its number can be read, or the word. -/
theorem readPart_cases (part : Text) :
    part = [] ∨
    (BeginsWithDigit part ∧ ∀ mode : Mode, mode.readPart part =
      (readNumeral (part.takeWhile Symbol.isAsciiDigit)).map
        (fun level => { mode with level := level })) ∨
    (NamesMode part ∧ ∀ mode : Mode, mode.readPart part = .ok { mode with word := part }) := by
  cases part with
  | nil => exact Or.inl rfl
  | cons first rest =>
      right
      cases digit : first.isDigit with
      | true =>
          left
          refine ⟨⟨first, rfl, digit⟩, ?_⟩
          intro mode
          simp only [readPart, digit, if_true]
          cases readNumeral ((first :: rest).takeWhile Symbol.isAsciiDigit) with
          | error fault => rfl
          | ok level => rfl
      | false =>
          right
          refine ⟨⟨List.cons_ne_nil first rest, ?_⟩, ?_⟩
          · rintro ⟨other, begins, isDigit⟩
            obtain rfl := Option.some.inj begins
            rw [digit] at isDigit
            cases isDigit
          · intro mode
            simp only [readPart, digit, if_neg Bool.false_ne_true]

/-- Parts that are not both of one sort may be read in either order. -/
theorem readPart_comm (notLevels : ¬(BeginsWithDigit first ∧ BeginsWithDigit second))
    (notWords : ¬(NamesMode first ∧ NamesMode second)) (mode : Mode) :
    (mode.readPart first >>= (readPart · second)) =
      (mode.readPart second >>= (readPart · first)) := by
  have nothing (mode : Mode) : mode.readPart [] = .ok mode := rfl
  rcases readPart_cases first with rfl | ⟨level, read⟩ | ⟨word, read⟩
  · rw [nothing]
    exact (bind_pure (mode.readPart second)).symm
  · rcases readPart_cases second with rfl | ⟨otherLevel, _⟩ | ⟨_, otherRead⟩
    · rw [nothing]
      exact bind_pure (mode.readPart first)
    · exact absurd ⟨level, otherLevel⟩ notLevels
    · rw [read, otherRead]
      change _ = Mode.readPart { mode with word := second } first
      rw [read]
      cases readNumeral (first.takeWhile Symbol.isAsciiDigit) with
      | error fault => rfl
      | ok number => exact otherRead _
  · rcases readPart_cases second with rfl | ⟨_, otherRead⟩ | ⟨otherWord, _⟩
    · rw [nothing]
      exact bind_pure (mode.readPart first)
    · rw [read, otherRead]
      change Mode.readPart { mode with word := first } second = _
      rw [otherRead]
      cases readNumeral (second.takeWhile Symbol.isAsciiDigit) with
      | error fault => rfl
      | ok number => exact (read { mode with level := number }).symm
    · exact absurd ⟨word, otherWord⟩ notWords

/-- Where there is no level, what is there is the word. -/
theorem readPart_of_word (notLevel : ¬BeginsWithDigit part) {mode : Mode}
    (unset : mode.word = []) : mode.readPart part = .ok { mode with word := part } := by
  rcases readPart_cases part with rfl | ⟨level, _⟩ | ⟨_, read⟩
  · obtain ⟨word, level⟩ := mode
    obtain rfl : word = [] := unset
    rfl
  · exact absurd level notLevel
  · exact read mode

/-! ### Settings -/

theorem ofText_swap (unmarked : .char '+' ∉ first) (alsoUnmarked : .char '+' ∉ second)
    (notLevels : ¬(BeginsWithDigit first ∧ BeginsWithDigit second))
    (notWords : ¬(NamesMode first ∧ NamesMode second)) :
    ofText (first ++ .char '+' :: second) = ofText (second ++ .char '+' :: first) := by
  rw [ofText_pair (Text.unmarked_of_not_mem unmarked),
    ofText_pair (Text.unmarked_of_not_mem alsoUnmarked)]
  exact readPart_comm notLevels notWords {}

theorem ofText_error_iff :
    (∃ fault, ofText setting = .error fault) ↔
      ∃ part, IsPart setting part ∧ IsRefusedPart part := by
  have failed : (∃ fault, ofText setting = .error fault) ↔ ¬∃ mode, ofText setting = .ok mode := by
    cases ofText setting with
    | error fault => exact iff_of_true ⟨fault, rfl⟩ nofun
    | ok mode => exact iff_of_false nofun (not_not_intro ⟨mode, rfl⟩)
  rw [failed, ofText_exists_iff_readable]
  unfold IsReadable
  simp only [not_forall, not_isReadablePart_iff, isPart_iff_mem_parts, exists_prop]

theorem className_of_ofText {fault : Fault} (failed : ofText setting = .error fault) :
    fault.className = "ValueError" := by
  have found := faultOf?_ofText setting
  rw [failed] at found
  obtain ⟨part, _, refused⟩ := List.exists_of_findSome?_eq_some found.symm
  rw [← faultOf?_readPart {}] at refused
  rcases readPart_cases part with rfl | ⟨_, read⟩ | ⟨_, read⟩
  · cases refused
  · rw [read] at refused
    cases number : readNumeral (part.takeWhile Symbol.isAsciiDigit) with
    | error other =>
        rw [number] at refused
        obtain rfl := Option.some.inj refused
        exact ResolverSettings.className_of_readNumeral number
    | ok level =>
        rw [number] at refused
        cases refused
  · rw [read] at refused
    cases refused

/-- A word, or nothing, and a level are read from both sides of the plus sign, whatever
follows the digits of the level.  Two parts of different sorts may be exchanged, also where
one of them is refused.  A setting is refused, as no value, exactly if one of its parts
is. -/
theorem parts_read_in_either_order :
    (∀ word level tail, .char '+' ∉ word → ¬BeginsWithDigit word →
      (toString level).length ≤ maximumDigits → .char '+' ∉ tail →
      (∀ symbol ∈ tail.head?, symbol.isAsciiDigit = false) →
        ofText (word ++ .char '+' :: (writtenLevel level ++ tail)) =
            .ok { word := word, level := level } ∧
          ofText (writtenLevel level ++ tail ++ .char '+' :: word) =
            .ok { word := word, level := level }) ∧
    (∀ first second, .char '+' ∉ first → .char '+' ∉ second →
      ¬(BeginsWithDigit first ∧ BeginsWithDigit second) →
      ¬(NamesMode first ∧ NamesMode second) →
        ofText (first ++ .char '+' :: second) = ofText (second ++ .char '+' :: first)) ∧
    ∀ setting,
      ((∃ fault, ofText setting = .error fault) ↔
        ∃ part, IsPart setting part ∧ IsRefusedPart part) ∧
      ∀ fault, ofText setting = .error fault → fault.className = "ValueError" := by
  refine ⟨?_, ?_, ?_⟩
  · intro word level tail unmarked notLevel short tailUnmarked ended
    have written := isLevel_writtenLevel short
    constructor
    · rw [ofText_pair (Text.unmarked_of_not_mem unmarked), readPart_of_word notLevel rfl]
      refine (written.readPart_append ended _).trans ?_
      rw [decimalNumber_writtenLevel]
    · have alsoUnmarked : ∀ symbol ∈ writtenLevel level ++ tail, (symbol == .char '+') = false :=
        List.forall_mem_append.mpr ⟨written.unmarked, Text.unmarked_of_not_mem tailUnmarked⟩
      rw [ofText_pair alsoUnmarked, written.readPart_append ended, decimalNumber_writtenLevel]
      exact readPart_of_word notLevel rfl
  · intro first second unmarked alsoUnmarked notLevels notWords
    exact ofText_swap unmarked alsoUnmarked notLevels notWords
  · intro setting
    exact ⟨ofText_error_iff, fun fault => className_of_ofText⟩

end

/-- A superscript ends the level that it follows, and is refused where it begins a part. -/
theorem superscript_in_either_order :
    ofText (Text.ofString "go" ++ .char '+' :: (writtenLevel 12 ++ superscriptTwo)) =
        .ok { word := Text.ofString "go", level := 12 } ∧
      ofText (superscriptTwo ++ .char '+' :: Text.ofString "go") =
        ofText (Text.ofString "go" ++ .char '+' :: superscriptTwo) ∧
      ∃ fault, ofText (Text.ofString "go" ++ .char '+' :: superscriptTwo) = .error fault ∧
        fault.className = "ValueError" := by
  obtain ⟨read, swapped, refused⟩ := parts_read_in_either_order
  obtain ⟨iff, classOf⟩ := refused (Text.ofString "go" ++ .char '+' :: superscriptTwo)
  refine ⟨?_, ?_, ?_⟩
  · exact (read (Text.ofString "go") 12 superscriptTwo (by decide) (by decide +kernel)
      (by decide) (by decide) (by decide)).1
  · exact swapped _ _ (by decide) (by decide) (by decide +kernel) (by decide +kernel)
  · obtain ⟨fault, failed⟩ := iff.mpr ⟨superscriptTwo, .behind (by decide),
      .otherDigit rfl (by decide +kernel) (by decide)⟩
    exact ⟨fault, failed, classOf fault failed⟩

end Mode

end ResolverChoice
