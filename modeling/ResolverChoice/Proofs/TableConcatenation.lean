/-
Tables written one after the other.

A text read after another one adds its entries, unless the reading has ended at a flaw
before it.  Where the two meet an empty line may appear, or the line ends may merge; no
line changes otherwise, so nothing is read across the border.
-/

import ResolverChoice.Proofs.TextParts
import ResolverChoice.Switch.Reading

namespace ResolverChoice

namespace Understood

variable {α : Type}

theorem andThen_nothing (first : Understood α) : first.andThen nothing = first := by
  obtain ⟨items, flaw⟩ := first
  cases flaw with
  | none => exact congrArg (Understood.mk · none) (List.append_nil items)
  | some flaw => rfl

theorem andThen_assoc (first second third : Understood α) :
    (first.andThen second).andThen third = first.andThen (second.andThen third) := by
  obtain ⟨items, flaw⟩ := first
  cases flaw with
  | some flaw => rfl
  | none =>
      obtain ⟨others, flaw⟩ := second
      cases flaw with
      | some flaw => rfl
      | none => exact congrArg (Understood.mk · third.flaw) (List.append_assoc _ _ _)

end Understood

theorem readTableLines_append (first second : List Text) :
    readTableLines (first ++ second) =
      (readTableLines first).andThen (readTableLines second) := by
  induction first with
  | nil => rfl
  | cons line rest ih =>
      change (readTableLine line).andThen (readTableLines (rest ++ second)) =
        ((readTableLine line).andThen (readTableLines rest)).andThen (readTableLines second)
      rw [ih, Understood.andThen_assoc]

theorem readTableLines_of_empty {lines : List Text} (empty : ∀ line ∈ lines, line = []) :
    readTableLines lines = .nothing := by
  induction lines with
  | nil => rfl
  | cons line rest ih =>
      obtain rfl := empty line List.mem_cons_self
      exact ih (fun other member => empty other (List.mem_cons_of_mem [] member))

/-- Reading two texts with a line feed between them is reading one after the other. -/
theorem readTableLines_lines_append (first second : Text) :
    readTableLines (Text.lines (first ++ .char '\n' :: second)) =
      (readTableLines (Text.lines first)).andThen (readTableLines (Text.lines second)) := by
  obtain ⟨gap, joined, empty⟩ := Text.lines_append_lineFeed first second
  rw [joined, readTableLines_append, readTableLines_append, readTableLines_of_empty empty,
    Understood.andThen_nothing]

namespace SwitchTable

variable {path : Option String} {first second : Text}

theorem error_ofText_eq_none_iff {text : Text} :
    (ofText path text).error = none ↔ (readTableLines (Text.lines text)).flaw = none :=
  Option.map_eq_none_iff

theorem ofText_append_of_error (stopped : (ofText path first).error ≠ none) :
    ofText path (first ++ .char '\n' :: second) = ofText path first := by
  rw [Ne, error_ofText_eq_none_iff] at stopped
  obtain ⟨flaw, found⟩ := Option.ne_none_iff_exists'.mp stopped
  unfold ofText
  rw [readTableLines_lines_append, Understood.andThen, found]

theorem ofText_append (whole : (ofText path first).error = none) :
    ofText path (first ++ .char '\n' :: second) =
      { entries := (ofText path first).entries ++ (ofText path second).entries
        error := (ofText path second).error } := by
  rw [error_ofText_eq_none_iff] at whole
  unfold ofText
  rw [readTableLines_lines_append, Understood.andThen, whole]

theorem sources_ofText_append (whole : (ofText path first).error = none) (database : Text) :
    (ofText path (first ++ .char '\n' :: second)).sources database =
      (ofText path first).sources database ++ (ofText path second).sources database := by
  rw [ofText_append whole]
  unfold sources
  rw [List.filter_append, List.map_append]

/-- A text that reads without error and has nothing for a database can stand between any
two others: it changes neither the sources of that database nor the error. -/
theorem ofText_skip {middle : Text} {database : Text}
    (whole : (ofText path middle).error = none)
    (foreign : (ofText path middle).sources database = []) (first last : Text) :
    (ofText path (first ++ .char '\n' :: (middle ++ .char '\n' :: last))).sources database =
        (ofText path (first ++ .char '\n' :: last)).sources database ∧
      (ofText path (first ++ .char '\n' :: (middle ++ .char '\n' :: last))).error =
        (ofText path (first ++ .char '\n' :: last)).error := by
  by_cases stopped : (ofText path first).error = none
  · constructor
    · rw [sources_ofText_append stopped, sources_ofText_append stopped,
        sources_ofText_append whole, foreign, List.nil_append]
    · rw [ofText_append stopped, ofText_append stopped, ofText_append whole]
  · rw [ofText_append_of_error stopped, ofText_append_of_error stopped]
    exact ⟨rfl, rfl⟩

/-- Of two texts with a line feed between them the second one adds its sources to those of
the first, and its error, unless the first has an error; then it adds nothing.  So text
for other databases does not change a database, wherever it stands. -/
theorem ofText_concatenated (path : Option String) (first second : Text) :
    ((ofText path first).error = none →
      (∀ database, (ofText path (first ++ .char '\n' :: second)).sources database =
        (ofText path first).sources database ++ (ofText path second).sources database) ∧
      (ofText path (first ++ .char '\n' :: second)).error = (ofText path second).error) ∧
    ((ofText path first).error ≠ none →
      ofText path (first ++ .char '\n' :: second) = ofText path first) ∧
    ∀ middle database, (ofText path middle).error = none →
      (ofText path middle).sources database = [] →
      (ofText path (first ++ .char '\n' :: (middle ++ .char '\n' :: second))).sources database =
          (ofText path (first ++ .char '\n' :: second)).sources database ∧
        (ofText path (first ++ .char '\n' :: (middle ++ .char '\n' :: second))).error =
          (ofText path (first ++ .char '\n' :: second)).error := by
  refine ⟨?_, ofText_append_of_error, ?_⟩
  · intro whole
    exact ⟨sources_ofText_append whole, by rw [ofText_append whole]⟩
  · intro middle database whole foreign
    exact ofText_skip whole foreign first second

def endedByReturn : Text :=
  Text.ofString "hosts: files\r"

def brokenAtEnd : Text :=
  Text.ofString "hosts: dns\nhosts"

/-- The first text reads without error, the second stops at its last line. -/
theorem ofText_concatenated_hosts :
    (ofText none (endedByReturn ++ .char '\n' :: brokenAtEnd)).sources (Text.ofString "hosts") =
        [Source.ofName (Text.ofString "files") [], Source.ofName (Text.ofString "dns") []] ∧
      (ofText none (endedByReturn ++ .char '\n' :: brokenAtEnd)).error =
        (ofText none brokenAtEnd).error ∧
      ofText none (brokenAtEnd ++ .char '\n' :: endedByReturn) = ofText none brokenAtEnd ∧
      (ofText none (endedByReturn ++ .char '\n' ::
          (Text.ofString "services: files" ++ .char '\n' :: brokenAtEnd))).sources
            (Text.ofString "hosts") =
        (ofText none (endedByReturn ++ .char '\n' :: brokenAtEnd)).sources
          (Text.ofString "hosts") := by
  obtain ⟨added, _, skipped⟩ := ofText_concatenated none endedByReturn brokenAtEnd
  obtain ⟨_, unread, _⟩ := ofText_concatenated none brokenAtEnd endedByReturn
  obtain ⟨sources, error⟩ := added (by decide +kernel)
  refine ⟨(sources (Text.ofString "hosts")).trans (by decide +kernel), error,
    unread (by decide +kernel), ?_⟩
  exact (skipped (Text.ofString "services: files") _ (by decide +kernel) (by decide +kernel)).1

end SwitchTable

end ResolverChoice
