/-
Text put together from parts.

Where no part holds the mark that separates it from the next one, cutting the whole at the
marks gives the parts back: lines at line feeds, words at blanks, and what stands before
and after a first mark.
-/

import ResolverChoice.Text.Lines

namespace ResolverChoice

namespace Text

/-! ### Lines -/

theorem lines_cons_of_endsLine {symbol : Symbol} {rest : Text}
    (ending : symbol.endsLine = true)
    (apart : symbol = .char '\r' → rest.head? ≠ some (.char '\n')) :
    lines (symbol :: rest) = [] :: lines rest := by
  rw [lines.eq_3 symbol rest, if_pos ending]
  rintro after rfl rfl
  exact apart rfl rfl

theorem lines_cons_of_not_endsLine {symbol : Symbol} (inner : symbol.endsLine = false)
    (rest : Text) :
    lines (symbol :: rest) = (symbol :: (lines rest).headD []) :: (lines rest).tail := by
  rw [lines.eq_3 symbol rest, inner, if_neg Bool.false_ne_true]
  · cases lines rest <;> rfl
  · rintro after rfl rfl
    exact absurd inner (by decide)

theorem lines_lineFeed (rest : Text) : lines (.char '\n' :: rest) = [] :: lines rest :=
  lines_cons_of_endsLine (by decide) (fun carriage => nomatch carriage)

theorem eq_nil_of_lines_eq_nil {text : Text} (none : lines text = []) : text = [] := by
  revert none
  fun_cases lines text with
  | case1 => exact fun _ => rfl
  | case2 rest => exact (nomatch ·)
  | case3 symbol rest _ ending => exact (nomatch ·)
  | case4 symbol rest _ inner last => exact (nomatch ·)
  | case5 symbol rest _ inner line others next => exact (nomatch ·)

/-- A line feed between two texts adds an empty line if the first one ends a line with it,
and none if it closes the last line of the first, as it also does after a carriage
return. -/
theorem lines_append_lineFeed (first second : Text) :
    ∃ gap, lines (first ++ .char '\n' :: second) = lines first ++ gap ++ lines second ∧
      ∀ line ∈ gap, line = [] := by
  induction first using lines.induct with
  | case1 =>
      refine ⟨[[]], lines_lineFeed second, ?_⟩
      exact fun line member => List.mem_singleton.mp member
  | case2 rest ih =>
      obtain ⟨gap, joined, empty⟩ := ih
      refine ⟨gap, ?_, empty⟩
      rw [List.cons_append, List.cons_append, lines.eq_2, lines.eq_2, joined]
      rfl
  | case3 symbol rest apart ending ih =>
      have alone : lines (symbol :: rest) = [] :: lines rest := by
        rw [lines.eq_3 symbol rest apart, if_pos ending]
      by_cases merges : rest = [] ∧ symbol = .char '\r'
      · -- The carriage return and the line feed end one line together.
        obtain ⟨rfl, rfl⟩ := merges
        refine ⟨[], ?_, fun line member => nomatch member⟩
        rw [List.cons_append, List.nil_append, lines.eq_2]
        rfl
      · obtain ⟨gap, joined, empty⟩ := ih
        refine ⟨gap, ?_, empty⟩
        rw [List.cons_append, lines_cons_of_endsLine ending, joined, alone]
        · rfl
        · intro carriage next
          cases rest with
          | nil => exact merges ⟨rfl, carriage⟩
          | cons head tail => exact apart tail carriage (by rw [Option.some.inj next])
  | case4 symbol rest apart inner last ih =>
      have inside : symbol.endsLine = false := Bool.eq_false_iff.mpr inner
      refine ⟨[], ?_, fun line member => nomatch member⟩
      rw [eq_nil_of_lines_eq_nil last, List.cons_append, List.nil_append, lines_cons_of_not_endsLine inside,
        lines_cons_of_not_endsLine inside, lines_lineFeed]
      rfl
  | case5 symbol rest apart inner line others next ih =>
      have inside : symbol.endsLine = false := Bool.eq_false_iff.mpr inner
      obtain ⟨gap, joined, empty⟩ := ih
      refine ⟨gap, ?_, empty⟩
      rw [List.cons_append, lines_cons_of_not_endsLine inside,
        lines_cons_of_not_endsLine inside, joined, next]
      rfl

theorem lines_cons_lineFeed {line : Text} (inner : ∀ symbol ∈ line, symbol.endsLine = false)
    (rest : Text) : lines (line ++ .char '\n' :: rest) = line :: lines rest := by
  induction line with
  | nil => exact lines_lineFeed rest
  | cons symbol line ih =>
      rw [List.forall_mem_cons] at inner
      rw [List.cons_append, lines_cons_of_not_endsLine inner.1, ih inner.2]
      rfl

theorem lines_of_inner {line : Text} (inner : ∀ symbol ∈ line, symbol.endsLine = false)
    (nonempty : line ≠ []) : lines line = [line] := by
  induction line with
  | nil => exact absurd rfl nonempty
  | cons symbol line ih =>
      rw [List.forall_mem_cons] at inner
      rw [lines_cons_of_not_endsLine inner.1]
      by_cases last : line = []
      · rw [last]
        rfl
      · rw [ih inner.2 last]
        rfl

/-! ### Marks -/

section

variable {isMark : Symbol → Bool} {part : Text} {mark : Symbol}

theorem cutAt_append_mark (unmarked : ∀ symbol ∈ part, isMark symbol = false)
    (marks : isMark mark = true) (rest : Text) :
    cutAt isMark (part ++ mark :: rest) = (part, some rest) := by
  induction part with
  | nil => rw [List.nil_append, cutAt, if_pos marks]
  | cons symbol part ih =>
      rw [List.forall_mem_cons] at unmarked
      rw [List.cons_append, cutAt, unmarked.1, if_neg Bool.false_ne_true, ih unmarked.2]

theorem cutAt_of_unmarked (unmarked : ∀ symbol ∈ part, isMark symbol = false) :
    cutAt isMark part = (part, none) := by
  induction part with
  | nil => rfl
  | cons symbol part ih =>
      rw [List.forall_mem_cons] at unmarked
      rw [cutAt, unmarked.1, if_neg Bool.false_ne_true, ih unmarked.2]

theorem pieces_append_mark (unmarked : ∀ symbol ∈ part, isMark symbol = false)
    (marks : isMark mark = true) (rest : Text) :
    pieces isMark (part ++ mark :: rest) = part :: pieces isMark rest := by
  induction part with
  | nil => rw [List.nil_append, pieces, if_pos marks]
  | cons symbol part ih =>
      rw [List.forall_mem_cons] at unmarked
      rw [List.cons_append, pieces, unmarked.1, if_neg Bool.false_ne_true, ih unmarked.2]

theorem pieces_of_unmarked (unmarked : ∀ symbol ∈ part, isMark symbol = false) :
    pieces isMark part = [part] := by
  induction part with
  | nil => rfl
  | cons symbol part ih =>
      rw [List.forall_mem_cons] at unmarked
      rw [pieces, unmarked.1, if_neg Bool.false_ne_true, ih unmarked.2]

end

theorem forall_mem_intercalate {Holds : Symbol → Prop} {mark : Symbol} {parts : List Text}
    (marks : Holds mark) (inside : ∀ part ∈ parts, ∀ symbol ∈ part, Holds symbol) :
    ∀ symbol ∈ [mark].intercalate parts, Holds symbol := by
  induction parts with
  | nil => exact nofun
  | cons part rest ih =>
      obtain ⟨first, others⟩ := List.forall_mem_cons.mp inside
      cases rest with
      | nil =>
          rw [List.intercalate_singleton]
          exact first
      | cons other rest =>
          rw [List.intercalate_cons_cons, List.append_assoc, List.singleton_append]
          exact List.forall_mem_append.mpr ⟨first, List.forall_mem_cons.mpr ⟨marks, ih others⟩⟩

/-! ### Blanks -/

theorem trimStart_of_head? {text : Text}
    (edge : ∀ symbol ∈ text.head?, symbol.isBlank = false) : trimStart text = text := by
  cases text with
  | nil => rfl
  | cons symbol rest =>
      unfold trimStart
      rw [List.dropWhile_cons_of_neg]
      rw [edge symbol rfl]
      exact Bool.false_ne_true

theorem trimEnd_of_getLast? {text : Text}
    (edge : ∀ symbol ∈ text.getLast?, symbol.isBlank = false) : trimEnd text = text := by
  have reversed : trimStart text.reverse = text.reverse := by
    refine trimStart_of_head? ?_
    rwa [List.head?_reverse]
  change (trimStart text.reverse).reverse = text
  rw [reversed, List.reverse_reverse]

theorem trim_of_edges {text : Text} (first : ∀ symbol ∈ text.head?, symbol.isBlank = false)
    (last : ∀ symbol ∈ text.getLast?, symbol.isBlank = false) : trim text = text := by
  unfold trim
  rw [trimStart_of_head? first, trimEnd_of_getLast? last]

theorem trim_cons_blank {blank : Symbol} (isBlank : blank.isBlank = true) (text : Text) :
    trim (blank :: text) = trim text := by
  unfold trim trimStart
  rw [List.dropWhile_cons_of_pos isBlank]

/-! ### Words -/

section

variable {word : Text} {blank : Symbol}

theorem firstWord_append (solid : ∀ symbol ∈ word, symbol.isBlank = false)
    (isBlank : blank.isBlank = true) (rest : Text) :
    firstWord (word ++ blank :: rest) = word := by
  unfold firstWord
  rw [List.takeWhile_append_of_pos, List.takeWhile_cons_of_neg, List.append_nil]
  · rw [isBlank]
    exact Bool.false_ne_true
  · intro symbol member
    rw [solid symbol member]
    rfl

theorem afterFirstWord_append (solid : ∀ symbol ∈ word, symbol.isBlank = false)
    (isBlank : blank.isBlank = true) (rest : Text) :
    afterFirstWord (word ++ blank :: rest) = trimStart rest := by
  unfold afterFirstWord
  rw [List.dropWhile_append_of_pos, List.dropWhile_cons_of_neg]
  · unfold trimStart
    rw [List.dropWhile_cons_of_pos isBlank]
  · rw [isBlank]
    exact Bool.false_ne_true
  · intro symbol member
    rw [solid symbol member]
    rfl

theorem words_append_blank (nonempty : word ≠ [])
    (solid : ∀ symbol ∈ word, symbol.isBlank = false) (isBlank : blank.isBlank = true)
    (rest : Text) : words (word ++ blank :: rest) = word :: words rest := by
  unfold words
  rw [pieces_append_mark solid isBlank, List.filter_cons, if_pos]
  rwa [Bool.not_eq_true', List.isEmpty_eq_false_iff]

theorem words_of_solid (nonempty : word ≠ [])
    (solid : ∀ symbol ∈ word, symbol.isBlank = false) : words word = [word] := by
  unfold words
  rw [pieces_of_unmarked solid, List.filter_cons, if_pos, List.filter_nil]
  rwa [Bool.not_eq_true', List.isEmpty_eq_false_iff]

theorem words_intercalate (isBlank : blank.isBlank = true) {parts : List Text}
    (solid : ∀ part ∈ parts, part ≠ [] ∧ ∀ symbol ∈ part, symbol.isBlank = false) :
    words ([blank].intercalate parts) = parts := by
  induction parts with
  | nil => rfl
  | cons part rest ih =>
      obtain ⟨⟨nonempty, inner⟩, others⟩ := List.forall_mem_cons.mp solid
      cases rest with
      | nil => rw [List.intercalate_singleton, words_of_solid nonempty inner]
      | cons other rest =>
          rw [List.intercalate_cons_cons, List.append_assoc, List.singleton_append,
            words_append_blank nonempty inner isBlank, ih others]

end

end Text

end ResolverChoice
