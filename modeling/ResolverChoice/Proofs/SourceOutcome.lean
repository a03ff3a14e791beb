/-
How the outcome of a list of sources depends on its parts.

A source that lets the lookup go on can be left out, and one that ends it hides all
that come after it.  Without criteria the outcome is that of the kinds alone: the
first kind that finds the name answers.
-/

import ResolverChoice.Switch.Outcome

namespace ResolverChoice

/-- Whether sources of the kind find the name. -/
def finds (statusOf : SourceKind → Status) (kind : SourceKind) : Bool :=
  statusOf kind == .success

theorem finds_eq_false_iff {statusOf : SourceKind → Status} {kind : SourceKind} :
    finds statusOf kind = false ↔ statusOf kind ≠ .success := by
  simp only [finds, beq_eq_false_iff_ne]

namespace Source

variable {statusOf : SourceKind → Status}

theorem answering?_map_withoutCriteria (statusOf : SourceKind → Status)
    (sources : List Source) :
    answering? statusOf (sources.map withoutCriteria) =
      (sources.map Source.kind).find? (finds statusOf) := by
  induction sources with
  | nil => rfl
  | cons source rest ih =>
      rw [List.map_cons, List.map_cons, answering?_cons_withoutCriteria, ih]
      by_cases found : statusOf source.kind = .success
      · have accepted : finds statusOf source.kind = true := beq_iff_eq.mpr found
        rw [if_pos found, List.find?_cons_of_pos accepted]
      · have refused : finds statusOf source.kind = false := finds_eq_false_iff.mpr found
        rw [if_neg found, List.find?_cons_of_neg (Bool.eq_false_iff.mp refused)]

theorem answering?_append_of_goOn {before : List Source} (rest : List Source)
    (passed : ∀ source ∈ before, source.actionAfter (statusOf source.kind) = .goOn) :
    answering? statusOf (before ++ rest) = answering? statusOf rest := by
  induction before with
  | nil => rfl
  | cons source before ih =>
      have first := passed source List.mem_cons_self
      have others := ih (fun other member => passed other (List.mem_cons_of_mem source member))
      simp only [List.cons_append, answering?, first, others]

theorem finds_of_answering?_eq_some {sources : List Source} {kind : SourceKind}
    (answered : answering? statusOf sources = some kind) :
    kind ∈ sources.map Source.kind ∧ finds statusOf kind = true := by
  induction sources with
  | nil => cases answered
  | cons source rest ih =>
      simp only [answering?] at answered
      cases action : source.actionAfter (statusOf source.kind) with
      | goOn =>
          rw [action] at answered
          obtain ⟨listed, found⟩ := ih answered
          exact ⟨List.mem_cons_of_mem _ listed, found⟩
      | stop =>
          rw [action] at answered
          by_cases found : statusOf source.kind = .success
          · simp only [if_pos found, Option.some.injEq] at answered
            subst answered
            exact ⟨List.mem_cons_self, beq_iff_eq.mpr found⟩
          · simp only [if_neg found, reduceCtorEq] at answered

/-- Nobody answers once a source has ended the lookup and none so far has found the
name, whatever comes later. -/
theorem answering?_eq_none_of_stop {before after : List Source} {source : Source}
    (unfound : ∀ earlier ∈ before, statusOf earlier.kind ≠ .success)
    (stopped : source.actionAfter (statusOf source.kind) = .stop)
    (failed : statusOf source.kind ≠ .success) :
    answering? statusOf (before ++ source :: after) = none := by
  induction before with
  | nil => simp only [List.nil_append, answering?, stopped, if_neg failed]
  | cons earlier before ih =>
      have missed := unfound earlier List.mem_cons_self
      have later := ih (fun other member => unfound other (List.mem_cons_of_mem earlier member))
      simp only [List.cons_append, answering?, if_neg missed, later]
      split <;> rfl

end Source

end ResolverChoice
