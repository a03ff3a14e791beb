/-
Text cut at a line or inside it, and text without the blanks at its edges.

A line of a text stands between what comes before it and its line end.  Cutting there, or
inside the line, gives the lines before the cut and leaves the others as they were; only a
carriage return must not come to stand before a line feed.
-/

import Mathlib.Data.List.DropRight
import ResolverChoice.Proofs.TextParts

namespace ResolverChoice

namespace Text

/-! ### Lines -/

/-- What ends a line, before the rest of the text. -/
inductive IsLineEnd : Text → Text → Prop where
  | pair (rest : Text) : IsLineEnd [.char '\r', .char '\n'] rest
  | single {symbol : Symbol} {rest : Text} (ending : symbol.endsLine = true)
      (apart : symbol = .char '\r' → rest.head? ≠ some (.char '\n')) :
      IsLineEnd [symbol] rest

section

variable {ending rest part line : Text}

theorem IsLineEnd.of_prefix (ends : IsLineEnd ending rest) (begins : part <+: rest) :
    IsLineEnd ending part := by
  cases ends with
  | pair => exact .pair part
  | single ending apart =>
      refine .single ending ?_
      intro carriage next
      obtain ⟨more, rfl⟩ := begins
      exact apart carriage (by rw [List.head?_append, next, Option.some_or])

theorem IsLineEnd.lines_append (ends : IsLineEnd ending rest)
    (inner : ∀ symbol ∈ line, symbol.endsLine = false) :
    lines (line ++ (ending ++ rest)) = line :: lines rest := by
  induction line with
  | nil =>
      cases ends with
      | pair => exact lines.eq_2 rest
      | single ending apart => exact lines_cons_of_endsLine ending apart
  | cons symbol line ih =>
      rw [List.forall_mem_cons] at inner
      rw [List.cons_append, lines_cons_of_not_endsLine inner.1, ih inner.2]
      rfl

end

/-- The first line reaches to the end of the text or to a line end. -/
theorem parts_of_lines_eq_cons {text first : Text} {others : List Text}
    (split : lines text = first :: others) :
    (∀ symbol ∈ first, symbol.endsLine = false) ∧
      (text = first ∧ others = [] ∨
        ∃ ending rest, text = first ++ (ending ++ rest) ∧ lines rest = others ∧
          IsLineEnd ending rest) := by
  induction text using lines.induct generalizing first with
  | case1 => cases split
  | case2 rest ih =>
      rw [lines.eq_2, List.cons.injEq] at split
      obtain ⟨rfl, same⟩ := split
      exact ⟨List.forall_mem_nil _, Or.inr ⟨_, rest, rfl, same, .pair rest⟩⟩
  | case3 symbol rest apart ending ih =>
      rw [lines.eq_3 symbol rest apart, if_pos ending, List.cons.injEq] at split
      obtain ⟨rfl, same⟩ := split
      refine ⟨List.forall_mem_nil _, Or.inr ⟨[symbol], rest, rfl, same, .single ending ?_⟩⟩
      intro carriage next
      cases rest with
      | nil => cases next
      | cons head tail => exact apart tail carriage (by rw [Option.some.inj next])
  | case4 symbol rest apart inner last ih =>
      have inside : symbol.endsLine = false := Bool.eq_false_iff.mpr inner
      rw [lines_cons_of_not_endsLine inside, last, List.cons.injEq] at split
      obtain ⟨rfl, rfl⟩ := split
      refine ⟨List.forall_mem_cons.mpr ⟨inside, List.forall_mem_nil _⟩, Or.inl ⟨?_, rfl⟩⟩
      rw [eq_nil_of_lines_eq_nil last]
      rfl
  | case5 symbol rest apart inner line tail next ih =>
      have inside : symbol.endsLine = false := Bool.eq_false_iff.mpr inner
      rw [lines_cons_of_not_endsLine inside, next, List.cons.injEq] at split
      obtain ⟨rfl, rfl⟩ := split
      obtain ⟨lineInner, parts⟩ := ih next
      refine ⟨List.forall_mem_cons.mpr ⟨inside, lineInner⟩, ?_⟩
      rcases parts with ⟨rfl, none⟩ | ⟨ending, after, rfl, same, ends⟩
      · exact Or.inl ⟨rfl, none⟩
      · exact Or.inr ⟨ending, after, rfl, same, ends⟩

/-- The text around one of its lines: before the line, and from the end of the line on. -/
structure AroundLine (earlier : List Text) (line : Text) (later : List Text)
    (before after : Text) : Prop where
  inner : ∀ symbol ∈ line, symbol.endsLine = false
  /-- The text may be cut anywhere in the line. -/
  cut : ∀ part, part <+: line → lines (before ++ part) = earlier ++ lines part
  /-- Something else may stand in the place of the line. -/
  replaced : ∀ part, part ≠ [] → (∀ symbol ∈ part, symbol.endsLine = false) →
    lines (part ++ after) = part :: later

theorem exists_aroundLine {text line : Text} {earlier later : List Text}
    (split : lines text = earlier ++ line :: later) :
    ∃ before after, text = before ++ (line ++ after) ∧
      AroundLine earlier line later before after := by
  induction earlier generalizing text with
  | nil =>
      obtain ⟨inner, parts⟩ := parts_of_lines_eq_cons split
      rcases parts with ⟨rfl, rfl⟩ | ⟨ending, rest, rfl, rfl, ends⟩
      · refine ⟨[], [], (List.append_nil text).symm, inner, fun _ _ => rfl, ?_⟩
        intro part nonempty partInner
        rw [List.append_nil, lines_of_inner partInner nonempty]
      · refine ⟨[], ending ++ rest, rfl, inner, fun _ _ => rfl, ?_⟩
        intro part _ partInner
        exact ends.lines_append partInner
  | cons first earlier ih =>
      obtain ⟨firstInner, parts⟩ := parts_of_lines_eq_cons split
      rcases parts with ⟨_, none⟩ | ⟨ending, rest, rfl, same, ends⟩
      · exact absurd none (List.append_ne_nil_of_right_ne_nil _ (List.cons_ne_nil _ _))
      · obtain ⟨before, after, rfl, around⟩ := ih same
        refine ⟨first ++ (ending ++ before), after, ?_, around.inner, ?_, around.replaced⟩
        · simp only [List.append_assoc]
        · intro part begins
          have shorter : before ++ part <+: before ++ (line ++ after) := by
            rw [List.prefix_append_right_inj]
            exact begins.trans (List.prefix_append line after)
          rw [List.append_assoc, List.append_assoc,
            (ends.of_prefix shorter).lines_append firstInner, around.cut part begins,
            List.cons_append]

/-! ### Marks -/

section

variable {mark : Symbol} {part : Text}

theorem unmarked_of_not_mem (absent : mark ∉ part) :
    ∀ symbol ∈ part, (symbol == mark) = false := by
  intro symbol member
  rw [beq_eq_false_iff_ne]
  rintro rfl
  exact absent member

/-- The text is cut at the first mark. -/
theorem cutAt_of_first (absent : mark ∉ part) (rest : Text) :
    cutAt (· == mark) (part ++ mark :: rest) = (part, some rest) :=
  cutAt_append_mark (unmarked_of_not_mem absent) (beq_self_eq_true mark) rest

theorem cutAt_of_not_mem (absent : mark ∉ part) : cutAt (· == mark) part = (part, none) :=
  cutAt_of_unmarked (unmarked_of_not_mem absent)

end

/-! ### Blanks at the edges -/

def IsBlank (text : Text) : Prop :=
  ∀ symbol ∈ text, symbol.isBlank = true

/-- At least one symbol, and none of them blank. -/
structure IsWord (word : Text) : Prop where
  nonempty : word ≠ []
  solid : ∀ symbol ∈ word, symbol.isBlank = false

section

variable {blanks text word : Text}

theorem IsBlank.append {first second : Text} (blank : IsBlank first)
    (alsoBlank : IsBlank second) : IsBlank (first ++ second) :=
  List.forall_mem_append.mpr ⟨blank, alsoBlank⟩

theorem IsBlank.isBlank_head? (blank : IsBlank blanks) (nonempty : blanks ≠ []) (text : Text) :
    ∀ symbol ∈ (blanks ++ text).head?, symbol.isBlank = true := by
  obtain ⟨first, others, rfl⟩ := List.exists_cons_of_ne_nil nonempty
  intro symbol starts
  obtain rfl := Option.some.inj starts
  exact blank first List.mem_cons_self

theorem trimStart_cons {symbol : Symbol} (solid : symbol.isBlank = false) (rest : Text) :
    trimStart (symbol :: rest) = symbol :: rest :=
  List.dropWhile_cons_of_neg (Bool.eq_false_iff.mp solid)

theorem trimStart_append (blank : IsBlank blanks) (text : Text) :
    trimStart (blanks ++ text) = trimStart text :=
  List.dropWhile_append_of_pos blank

theorem trimStart_of_isBlank (blank : IsBlank blanks) : trimStart blanks = [] :=
  List.dropWhile_eq_nil_iff.mpr blank

theorem trimEnd_append (blank : IsBlank blanks) (text : Text) :
    trimEnd (text ++ blanks) = trimEnd text := by
  unfold trimEnd
  rw [List.reverse_append, List.dropWhile_append_of_pos]
  exact fun symbol member => blank symbol (List.mem_reverse.mp member)

theorem exists_trimStart (text : Text) :
    ∃ blanks, IsBlank blanks ∧ text = blanks ++ trimStart text :=
  ⟨text.takeWhile Symbol.isBlank, List.all_eq_true.mp List.all_takeWhile,
    List.takeWhile_append_dropWhile.symm⟩

theorem exists_trimEnd (text : Text) :
    ∃ blanks, IsBlank blanks ∧ text = trimEnd text ++ blanks := by
  obtain ⟨blanks, blank, parts⟩ := exists_trimStart text.reverse
  refine ⟨blanks.reverse, fun symbol member => blank symbol (List.mem_reverse.mp member), ?_⟩
  have whole := congrArg List.reverse parts
  rw [List.reverse_reverse, List.reverse_append] at whole
  exact whole

/-- Trimming takes blanks from both edges and nothing else. -/
theorem exists_trim (text : Text) :
    ∃ first last, IsBlank first ∧ IsBlank last ∧ text = first ++ (trim text ++ last) := by
  obtain ⟨first, blank, start⟩ := exists_trimStart text
  obtain ⟨last, alsoBlank, ends⟩ := exists_trimEnd (trimStart text)
  exact ⟨first, last, blank, alsoBlank, start.trans (congrArg (first ++ ·) ends)⟩

theorem trimStart_subset (text : Text) : trimStart text ⊆ text :=
  (List.dropWhile_sublist Symbol.isBlank).subset

theorem trim_subset (text : Text) : trim text ⊆ text := by
  obtain ⟨first, last, _, _, parts⟩ := exists_trim text
  intro symbol member
  rw [parts]
  exact List.mem_append_right first (List.mem_append_left last member)

theorem isBlank_head?_trimStart (text : Text) :
    ∀ symbol ∈ (trimStart text).head?, symbol.isBlank = false := by
  have edge := List.head?_dropWhile_not Symbol.isBlank text
  intro symbol starts
  change (text.dropWhile Symbol.isBlank).head? = some symbol at starts
  rw [starts] at edge
  exact edge

theorem isBlank_getLast?_trimEnd (text : Text) :
    ∀ symbol ∈ (trimEnd text).getLast?, symbol.isBlank = false := by
  intro symbol ends
  change (trimStart text.reverse).reverse.getLast? = some symbol at ends
  rw [List.getLast?_reverse] at ends
  exact isBlank_head?_trimStart text.reverse symbol ends

/-- Nothing is taken from before a symbol that is not blank. -/
theorem trimEnd_append_cons {symbol : Symbol} (solid : symbol.isBlank = false)
    (before after : Text) :
    trimEnd (before ++ symbol :: after) = before ++ symbol :: trimEnd after := by
  obtain ⟨blanks, blank, parts⟩ := exists_trimEnd after
  have edge : ∀ last ∈ (before ++ symbol :: trimEnd after).getLast?, last.isBlank = false := by
    intro last ends
    rw [List.getLast?_append, List.getLast?_cons, Option.some_or] at ends
    cases final : (trimEnd after).getLast? with
    | none =>
        rw [final] at ends
        obtain rfl := Option.some.inj ends
        exact solid
    | some other =>
        rw [final] at ends
        obtain rfl := Option.some.inj ends
        exact isBlank_getLast?_trimEnd after other final
  calc
    trimEnd (before ++ symbol :: after) =
        trimEnd ((before ++ symbol :: trimEnd after) ++ blanks) := by
      rw [List.append_assoc, List.cons_append, ← parts]
    _ = before ++ symbol :: trimEnd after := by
      rw [trimEnd_append blank, trimEnd_of_getLast? edge]

/-- It makes no difference which edge is trimmed first. -/
theorem trimStart_trimEnd (text : Text) : trimStart (trimEnd text) = trim text := by
  obtain ⟨blanks, blank, parts⟩ := exists_trimStart text
  have edge := isBlank_head?_trimStart text
  unfold trim
  cases found : trimStart text with
  | nil =>
      rw [found, List.append_nil] at parts
      have empty : trimEnd text = [] := by
        rw [parts]
        exact trimEnd_append blank []
      rw [empty]
      rfl
  | cons symbol rest =>
      rw [found] at parts edge
      have solid := edge symbol rfl
      have ended := trimEnd_append_cons solid [] rest
      rw [parts, trimEnd_append_cons solid, trimStart_append blank, trimStart_cons solid]
      exact ended.symm

theorem isBlank_head?_trim (text : Text) :
    ∀ symbol ∈ (trim text).head?, symbol.isBlank = false := by
  rw [← trimStart_trimEnd]
  exact isBlank_head?_trimStart (trimEnd text)

theorem trim_trimEnd (text : Text) : trim (trimEnd text) = trim text := by
  have edge := isBlank_getLast?_trimEnd (trimStart text)
  change trimEnd (trimStart (trimEnd text)) = _
  rw [trimStart_trimEnd]
  exact trimEnd_of_getLast? edge

theorem trim_trimStart (text : Text) : trim (trimStart text) = trim text := by
  unfold trim
  rw [trimStart_of_head? (isBlank_head?_trimStart text)]

theorem trim_append (blank : IsBlank blanks) (text : Text) :
    trim (blanks ++ text) = trim text := by
  unfold trim
  rw [trimStart_append blank]

theorem trim_of_isBlank (blank : IsBlank blanks) : trim blanks = [] := by
  unfold trim
  rw [trimStart_of_isBlank blank]
  rfl

theorem head?_of_trimEnd {symbol : Symbol} (starts : (trimEnd text).head? = some symbol) :
    text.head? = some symbol := by
  obtain ⟨blanks, _, parts⟩ := exists_trimEnd text
  rw [parts, List.head?_append, starts, Option.some_or]

theorem trimStart_append_of_ne_nil (nonempty : trimStart text ≠ []) (more : Text) :
    trimStart (text ++ more) = trimStart text ++ more := by
  unfold trimStart at nonempty ⊢
  rw [List.dropWhile_append, if_neg]
  rwa [List.isEmpty_iff]

/-- Nothing is taken from behind a symbol that is not blank. -/
theorem trimStart_append_cons {symbol : Symbol} (solid : symbol.isBlank = false)
    (before after : Text) :
    trimStart (before ++ symbol :: after) = trimStart before ++ symbol :: after := by
  by_cases empty : trimStart before = []
  · obtain ⟨blanks, blank, parts⟩ := exists_trimStart before
    rw [empty, List.append_nil] at parts
    rw [empty, parts, trimStart_append blank, trimStart_cons solid, List.nil_append]
  · exact trimStart_append_of_ne_nil empty _

theorem head?_trimStart_append {symbol : Symbol}
    (starts : (trimStart text).head? = some symbol) (more : Text) :
    (trimStart (text ++ more)).head? = some symbol := by
  obtain ⟨others, found⟩ := List.head?_eq_some_iff.mp starts
  rw [trimStart_append_of_ne_nil (by rw [found]; exact List.cons_ne_nil _ _), found]
  rfl

theorem head?_trimStart_append_blanks (blank : IsBlank blanks) (text : Text) :
    (trimStart (text ++ blanks)).head? = (trimStart text).head? := by
  by_cases empty : trimStart text = []
  · obtain ⟨first, alsoBlank, parts⟩ := exists_trimStart text
    rw [empty, List.append_nil] at parts
    rw [empty, parts, trimStart_of_isBlank (alsoBlank.append blank)]
  · rw [trimStart_append_of_ne_nil empty, List.head?_append_of_ne_nil _ empty]

/-! ### Words at the start -/

theorem IsWord.trimStart (isWord : IsWord word) (rest : Text) :
    trimStart (word ++ rest) = word ++ rest := by
  obtain ⟨first, others, rfl⟩ := List.exists_cons_of_ne_nil isWord.nonempty
  exact trimStart_cons (isWord.solid first List.mem_cons_self) (others ++ rest)

theorem IsWord.trim (isWord : IsWord word) (rest : Text) :
    trim (word ++ rest) = word ++ trimEnd rest := by
  obtain ⟨others, last, parts⟩ := (List.eq_nil_or_concat' word).resolve_left isWord.nonempty
  have solid : last.isBlank = false := by
    apply isWord.solid
    rw [parts]
    exact List.mem_append_right others (List.mem_singleton_self last)
  unfold Text.trim
  rw [isWord.trimStart, parts, List.append_assoc, List.append_assoc]
  exact trimEnd_append_cons solid others rest

theorem IsWord.firstWord (isWord : IsWord word) {rest : Text}
    (apart : ∀ symbol ∈ rest.head?, symbol.isBlank = true) :
    firstWord (word ++ rest) = word := by
  cases rest with
  | nil =>
      rw [List.append_nil]
      refine List.takeWhile_eq_self_iff.mpr ?_
      intro symbol member
      rw [isWord.solid symbol member]
      rfl
  | cons blank rest => exact firstWord_append isWord.solid (apart blank rfl) rest

theorem IsWord.afterFirstWord (isWord : IsWord word) {rest : Text}
    (apart : ∀ symbol ∈ rest.head?, symbol.isBlank = true) :
    afterFirstWord (word ++ rest) = Text.trimStart rest := by
  cases rest with
  | nil =>
      unfold Text.afterFirstWord
      rw [List.dropWhile_append_of_pos]
      · rfl
      · intro symbol member
        rw [isWord.solid symbol member]
        rfl
  | cons blank rest =>
      rw [afterFirstWord_append isWord.solid (apart blank rfl)]
      exact (List.dropWhile_cons_of_pos (apart blank rfl)).symm

/-- Text that does not start with a blank starts with a word. -/
theorem exists_firstWord {text : Text} (nonempty : text ≠ [])
    (edge : ∀ symbol ∈ text.head?, symbol.isBlank = false) :
    ∃ word rest, text = word ++ rest ∧ IsWord word ∧
      ∀ symbol ∈ rest.head?, symbol.isBlank = true := by
  refine ⟨text.takeWhile (!·.isBlank), text.dropWhile (!·.isBlank),
    List.takeWhile_append_dropWhile.symm, ⟨?_, ?_⟩, ?_⟩
  · obtain ⟨first, others, rfl⟩ := List.exists_cons_of_ne_nil nonempty
    rw [List.takeWhile_cons_of_pos]
    · exact List.cons_ne_nil _ _
    · rw [edge first rfl]
      rfl
  · intro symbol member
    have holds := List.all_eq_true.mp List.all_takeWhile symbol member
    exact (Bool.not_eq_true' _).mp holds
  · intro symbol starts
    have edge := List.head?_dropWhile_not (!·.isBlank) text
    rw [show (text.dropWhile (!·.isBlank)).head? = some symbol from starts] at edge
    exact (Bool.not_eq_false' _).mp edge

end

end Text

end ResolverChoice
