/-
Options that stop the reading of the settings.

A number in an options line is the run of digits behind its label.  The run is refused as no
value where it holds a digit without a place value or is too long for a numeral, and as an
overflow where a timeout is too great for binary64.  The first refused word of a file decides
how its reading fails.  A file without one gives settings that keep within their limits,
because every number is brought into its bounds once it is known.
-/

import ResolverChoice.Proofs.RoundedTime
import ResolverChoice.Proofs.SettingsContents

namespace ResolverChoice

/-! ### Classes of failures -/

def failureClass? {α : Type} (result : Except Fault α) : Option String :=
  (faultOf? result).map Fault.className

theorem failureClass?_eq_some_iff {α : Type} (result : Except Fault α) (name : String) :
    failureClass? result = some name ↔
      ∃ fault, result = .error fault ∧ fault.className = name := by
  unfold failureClass?
  rw [Option.map_eq_some_iff]
  cases result with
  | error fault => simp only [faultOf?, Option.some.injEq, Except.error.injEq]
  | ok value => simp only [faultOf?, reduceCtorEq, false_and]

theorem exists_error_iff {α : Type} (result : Except Fault α) :
    (∃ fault, result = .error fault) ↔ ∃ name, failureClass? result = some name := by
  simp only [failureClass?_eq_some_iff]
  constructor
  · rintro ⟨fault, failed⟩
    exact ⟨fault.className, fault, failed, rfl⟩
  · rintro ⟨_, fault, failed, _⟩
    exact ⟨fault, failed⟩

namespace ResolverSettings

/-- What keeps a run of digits from being read is a digit that is no decimal, or its length. -/
theorem not_hasReadableNumber_iff (value : Text) :
    ¬HasReadableNumber value ↔
      (∃ symbol ∈ leadingDigits value, symbol.isDecimal = false) ∨
        4300 < (leadingDigits value).length := by
  constructor
  · intro unreadable
    by_contra readable
    rw [not_or, not_exists, not_lt] at readable
    refine unreadable ⟨?_, readable.2⟩
    intro symbol member
    rw [← Bool.not_eq_false]
    exact fun notDecimal => readable.1 symbol ⟨member, notDecimal⟩
  · rintro (⟨symbol, member, notDecimal⟩ | long) readable
    · rw [readable.decimal symbol member] at notDecimal
      cases notDecimal
    · exact absurd readable.short (not_le.mpr long)

theorem className_of_readNumeral {literal : Text} {fault : Fault}
    (failed : readNumeral literal = .error fault) : fault.className = "ValueError" := by
  unfold readNumeral at failed
  dsimp only at failed
  split at failed
  · cases failed
    rfl
  · split at failed
    · cases failed
      rfl
    · cases failed

theorem failureClass?_leadingNumber (value : Text) (name : String) :
    failureClass? (leadingNumber value) = some name ↔
      ¬HasReadableNumber value ∧ name = "ValueError" := by
  rw [← faultOf?_leadingNumber_eq_none_iff]
  unfold leadingNumber
  cases value.takeWhile Symbol.isDigit with
  | nil => simp [failureClass?, faultOf?]
  | cons first rest =>
      cases read : readNumeral (first :: rest) with
      | error fault => simp [failureClass?, faultOf?, className_of_readNumeral read, eq_comm, read]
      | ok number => simp [failureClass?, faultOf?, read]

/-- From here on a number is rounded to 2 to the power 1024 or beyond. -/
theorem limit_eq : Binary64.limit = 2 ^ 1024 - 2 ^ 970 := by
  decide +kernel

theorem failureClass?_readTimeout (value : Text) (name : String) :
    failureClass? (readTimeout value) = some name ↔
      (¬HasReadableNumber value ∧ name = "ValueError") ∨
        (HasReadableNumber value ∧ Binary64.limit ≤ decimalNumber (leadingDigits value) ∧
          name = "OverflowError") := by
  by_cases readable : HasReadableNumber value
  · rw [readTimeout_of_number readable]
    simp only [readable, not_true, false_and, true_and, false_or]
    split
    · rename_i great
      simp [failureClass?, faultOf?, Fault.className, great, eq_comm]
    · rename_i fits
      simp [failureClass?, faultOf?, fits]
  · have failed : failureClass? (readTimeout value) = failureClass? (leadingNumber value) :=
      congrArg (Option.map Fault.className) (faultOf?_readTimeout_of_unreadable readable)
    rw [failed, failureClass?_leadingNumber]
    simp only [readable, false_and, or_false]

end ResolverSettings

/-! ### Refused words -/

namespace ResolverOption

/-- The word is the label and then a run of digits that nothing behind it continues. -/
structure GivesDigits (label : String) (word run : Text) : Prop where
  digits : ∀ symbol ∈ run, symbol.isDigit = true
  parts : ∃ rest : Text, word = Text.ofString label ++ (run ++ rest) ∧
    ∀ next, rest.head? = some next → next.isDigit = false

/-- Why a word is refused, with the class of the error. -/
inductive Refuses (word : Text) : String → Prop where
  | notDecimal {label : String} {run : Text} {symbol : Symbol} (listed : label ∈ numberLabels)
      (given : GivesDigits label word run) (member : symbol ∈ run)
      (notDecimal : symbol.isDecimal = false) : Refuses word "ValueError"
  | tooLong {label : String} {run : Text} (listed : label ∈ numberLabels)
      (given : GivesDigits label word run) (long : 4300 < run.length) :
      Refuses word "ValueError"
  | tooGreat {run : Text} (given : GivesDigits "timeout:" word run)
      (decimal : ∀ symbol ∈ run, symbol.isDecimal = true) (short : run.length ≤ 4300)
      (great : 2 ^ 1024 - 2 ^ 970 ≤ decimalNumber run) : Refuses word "OverflowError"

open ResolverSettings

theorem givesDigits_iff {label : String} {word run : Text} :
    GivesDigits label word run ↔
      ∃ value, valueAfter? label word = some value ∧ leadingDigits value = run := by
  constructor
  · intro given
    obtain ⟨rest, parts, ends⟩ := given.parts
    refine ⟨run ++ rest, valueAfter?_eq_some_iff.mpr parts, ?_⟩
    have nothing : rest.takeWhile Symbol.isDigit = [] := by
      cases rest with
      | nil => rfl
      | cons next others =>
          exact List.takeWhile_cons_of_neg (by rw [ends next rfl]; exact Bool.false_ne_true)
    unfold leadingDigits
    rw [List.takeWhile_append_of_pos given.digits, nothing, List.append_nil]
  · rintro ⟨value, found, rfl⟩
    refine ⟨fun symbol member => List.all_eq_true.mp List.all_takeWhile symbol member,
      value.dropWhile Symbol.isDigit, ?_, ?_⟩
    · unfold leadingDigits
      rw [List.takeWhile_append_dropWhile]
      exact valueAfter?_eq_some_iff.mp found
    · intro next begins
      have stopped := @List.head?_dropWhile_not _ Symbol.isDigit value
      rw [begins] at stopped
      exact stopped

/-- The text that the option has a number in. -/
def number? : ResolverOption → Option Text
  | .ndots value => some value
  | .timeout value => some value
  | .attempts value => some value
  | .ignored => none
  | .unknown => none

theorem exists_valueAfter?_iff (word value : Text) :
    (∃ label ∈ numberLabels, valueAfter? label word = some value) ↔
      (ofWord word).number? = some value := by
  have byOption : (∃ label ∈ numberLabels, valueAfter? label word = some value) ↔
      ∃ label ∈ numberLabels, (ofWord word).valueFor? label = some value :=
    exists_congr fun _ => and_congr_right fun listed => by rw [valueAfter?_eq_valueFor? listed]
  rw [byOption]
  cases ofWord word <;> simp [numberLabels, valueFor?, number?]

theorem refuses_iff (word : Text) (name : String) :
    Refuses word name ↔
      (∃ value, (ofWord word).number? = some value ∧ ¬HasReadableNumber value ∧
        name = "ValueError") ∨
      (∃ value, (ofWord word).valueFor? "timeout:" = some value ∧ HasReadableNumber value ∧
        Binary64.limit ≤ decimalNumber (leadingDigits value) ∧ name = "OverflowError") := by
  constructor
  · intro refused
    cases refused with
    | notDecimal listed given member notDecimal =>
        obtain ⟨value, found, rfl⟩ := givesDigits_iff.mp given
        refine Or.inl ⟨value, (exists_valueAfter?_iff word value).mp ⟨_, listed, found⟩, ?_, rfl⟩
        exact (not_hasReadableNumber_iff value).mpr (Or.inl ⟨_, member, notDecimal⟩)
    | tooLong listed given long =>
        obtain ⟨value, found, rfl⟩ := givesDigits_iff.mp given
        refine Or.inl ⟨value, (exists_valueAfter?_iff word value).mp ⟨_, listed, found⟩, ?_, rfl⟩
        exact (not_hasReadableNumber_iff value).mpr (Or.inr long)
    | tooGreat given decimal short great =>
        obtain ⟨value, found, rfl⟩ := givesDigits_iff.mp given
        rw [valueAfter?_eq_valueFor? (by decide)] at found
        rw [← limit_eq] at great
        exact Or.inr ⟨value, found, ⟨decimal, short⟩, great, rfl⟩
  · rintro (⟨value, number, unreadable, rfl⟩ | ⟨value, timeout, readable, great, rfl⟩)
    · obtain ⟨label, listed, found⟩ := (exists_valueAfter?_iff word value).mpr number
      have given := givesDigits_iff.mpr ⟨value, found, rfl⟩
      rcases (not_hasReadableNumber_iff value).mp unreadable with ⟨symbol, member, other⟩ | long
      · exact .notDecimal listed given member other
      · exact .tooLong listed given long
    · rw [← valueAfter?_eq_valueFor? (by decide)] at timeout
      rw [limit_eq] at great
      exact .tooGreat (givesDigits_iff.mpr ⟨value, timeout, rfl⟩) readable.decimal readable.short
        great

/-- A word is refused as its option is, with the class of the option's fault. -/
theorem refuses_iff_fault? (word : Text) (name : String) :
    Refuses word name ↔ (wordFault? word).map Fault.className = some name := by
  rw [refuses_iff]
  unfold wordFault?
  cases ofWord word with
  | ndots value =>
      change _ ↔ failureClass? (leadingNumber value) = some name
      rw [failureClass?_leadingNumber]
      simp [number?, valueFor?]
  | timeout value =>
      change _ ↔ failureClass? (readTimeout value) = some name
      rw [failureClass?_readTimeout]
      simp only [number?, valueFor?, if_true, Option.some.injEq, exists_eq_left']
  | attempts value =>
      change _ ↔ failureClass? (leadingNumber value) = some name
      rw [failureClass?_leadingNumber]
      simp [number?, valueFor?]
  | ignored => simp [number?, valueFor?, fault?]
  | unknown => simp [number?, valueFor?, fault?]

end ResolverOption

/-! ### Options of a file -/

theorem Directive.optionWords_ofWords (keyword : Text) (arguments : List Text) :
    (Directive.ofWords keyword arguments).optionWords =
      if keyword = Text.ofString "options" then arguments else [] := by
  by_cases options : keyword = Text.ofString "options"
  · subst options
    rfl
  · unfold Directive.ofWords
    rw [if_neg options, if_neg options]
    split
    · rfl
    · split
      · rfl
      · split <;> rfl

namespace ResolverSettings

open ResolverOption (Refuses refuses_iff_fault?)

theorem flatMap_lineOptionWords (lines : List Text) :
    lines.flatMap lineOptionWords =
      (Statement.argumentsOf "options" (lines.filterMap Statement.ofLine?)).flatten := by
  induction lines with
  | nil => rfl
  | cons line rest ih =>
      rw [List.flatMap_cons, ih]
      unfold lineOptionWords
      rw [ofLine?_eq_map]
      cases found : Statement.ofLine? line with
      | none =>
          rw [List.filterMap_cons_none found]
          rfl
      | some statement =>
          rw [List.filterMap_cons_some found, Option.map_some]
          dsimp only
          rw [Directive.optionWords_ofWords]
          unfold Statement.argumentsOf
          by_cases options : statement.keyword = Text.ofString "options"
          · simp [options]
          · simp [options]

theorem failureClass?_ofText (text : Text) :
    failureClass? (ofText text) =
      (SettingsContents.ofText text).options.findSome?
        (fun word => (wordFault? word).map Fault.className) := by
  have sameWords : optionWords text = (SettingsContents.ofText text).options :=
    flatMap_lineOptionWords (Text.lines text)
  unfold failureClass?
  rw [faultOf?_ofText, sameWords, List.map_findSome?]
  rfl

/-! ### Limits -/

/-- The bounds of what is kept for callers that ask name servers themselves. -/
structure WithinLimits (settings : ResolverSettings) : Prop where
  someServer : 1 ≤ settings.servers.length
  fewServers : settings.servers.length ≤ 3
  ndots : settings.ndots ≤ 15
  timeout : 1 ≤ settings.timeout
  attempts : 1 ≤ settings.attempts

theorem one_le_round_max (seconds : Nat) : 1 ≤ Binary64.round (max seconds 1 : Nat) := by
  apply Binary64.le_round_of_le
  · decide +kernel
  · exact Nat.one_le_cast.mpr (Nat.le_max_right seconds 1)

theorem withinLimits_settings (contents : SettingsContents) :
    contents.settings.WithinLimits := by
  have most : contents.servers.length ≤ 3 := List.length_take_le _ _
  unfold SettingsContents.settings
  constructor
  · dsimp only
    split
    · decide
    · rename_i named
      exact List.length_pos_iff.mpr named
  · dsimp only
    split
    · decide
    · exact most
  · cases contents.lastNumber? "ndots:" with
    | none => exact (by decide : 1 ≤ 15)
    | some number => exact Nat.min_le_right number 15
  · cases contents.lastNumber? "timeout:" with
    | none => exact (by decide +kernel : (1 : Rat) ≤ 5)
    | some seconds => exact one_le_round_max seconds
  · cases contents.lastNumber? "attempts:" with
    | none => exact (by decide : 1 ≤ 2)
    | some number => exact Nat.le_max_right number 1

/-! ### Files -/

/-- The first refused word of the options lines decides whether the reading of a file fails,
and with which class of error.  Settings that are read keep within the limits. -/
theorem first_refused_word_decides (text : Text) :
    (∀ name, (∃ fault, ofText text = .error fault ∧ fault.className = name) ↔
      ∃ before word after,
        (SettingsContents.ofText text).options = before ++ word :: after ∧
          Refuses word name ∧ ∀ earlier ∈ before, ∀ other, ¬Refuses earlier other) ∧
    ((∃ fault, ofText text = .error fault) ↔
      ∃ word ∈ (SettingsContents.ofText text).options, ∃ name, Refuses word name) ∧
    ((¬∃ word ∈ (SettingsContents.ofText text).options, ∃ name, Refuses word name) →
      ∃ settings, ofText text = .ok settings ∧ settings.WithinLimits) := by
  have refused : (∃ fault, ofText text = .error fault) ↔
      ∃ word ∈ (SettingsContents.ofText text).options, ∃ name, Refuses word name := by
    rw [exists_error_iff, failureClass?_ofText, ← Option.isSome_iff_exists,
      List.findSome?_isSome_iff]
    simp only [Option.isSome_iff_exists, refuses_iff_fault?]
  refine ⟨?_, refused, ?_⟩
  · intro name
    rw [← failureClass?_eq_some_iff, failureClass?_ofText, List.findSome?_eq_some_iff]
    simp only [refuses_iff_fault?, Option.eq_none_iff_forall_ne_some, ne_eq]
  · intro accepted
    rw [← refused] at accepted
    cases read : ofText text with
    | error fault => exact absurd ⟨fault, read⟩ accepted
    | ok settings =>
        have readable := (ofText_exists_iff_readable text).mp ⟨settings, read⟩
        cases read.symm.trans (ofText_of_readable readable)
        exact ⟨_, rfl, withinLimits_settings _⟩

/-- Two and 308 zeros. -/
def greatSeconds : Text :=
  .char '2' :: List.replicate 308 (.char '0')

def greatTimeoutWord : Text :=
  Text.ofString "timeout:" ++ greatSeconds

def greatTimeoutText : Text :=
  Text.ofString "options debug " ++ greatTimeoutWord ++ Text.ofString "\noptions ndots:²\n"

theorem refuses_greatTimeoutWord : Refuses greatTimeoutWord "OverflowError" := by
  have given : ResolverOption.GivesDigits "timeout:" greatTimeoutWord greatSeconds :=
    { digits := by decide +kernel
      parts := ⟨[], by rw [List.append_nil]; rfl, fun _ begins => nomatch begins⟩ }
  have great : Binary64.limit ≤ decimalNumber greatSeconds := by decide +kernel
  rw [limit_eq] at great
  exact .tooGreat given (by decide +kernel) (by decide +kernel) great

/-- The timeout comes before the digit that is no decimal; a comment is not read. -/
theorem great_timeout_decides :
    (∃ fault, ofText greatTimeoutText = .error fault ∧ fault.className = "OverflowError") ∧
      ∃ settings, ofText (Text.ofString "options ndots:99 timeout:0\n#options ndots:²\n") =
        .ok settings ∧ settings.WithinLimits := by
  constructor
  · refine ((first_refused_word_decides greatTimeoutText).1 "OverflowError").mpr
      ⟨[Text.ofString "debug"], greatTimeoutWord, [Text.ofString "ndots:²"],
        by decide +kernel, refuses_greatTimeoutWord, ?_⟩
    simp only [refuses_iff_fault?, ← ne_eq, ← Option.eq_none_iff_forall_ne_some]
    decide +kernel
  · refine (first_refused_word_decides _).2.2 ?_
    simp only [refuses_iff_fault?, ← Option.isSome_iff_exists]
    decide +kernel

end ResolverSettings

end ResolverChoice
