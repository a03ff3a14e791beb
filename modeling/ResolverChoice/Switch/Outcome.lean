/-
What a list of sources finds.

Each kind of source answers with one status, the same for every source of the
kind.  The sources are asked in turn until one of them ends the lookup.  This is
the meaning that routes have to agree with.
-/

import ResolverChoice.Switch.Table

namespace ResolverChoice

/-- Whether the criterion is about the status.  A negated criterion is about every
status but the one it names. -/
def Criterion.concerns (criterion : Criterion) (status : Status) : Bool :=
  match Status.ofWord? criterion.status with
  | none => false
  | some named => if criterion.negated then named != status else named == status

namespace Source

/-- What happens after the source has answered with a status: what the last
criterion about it says, and the default of the kind if there is none. -/
def actionAfter (source : Source) (status : Status) : Action :=
  match (source.criteria.filter (fun criterion => criterion.concerns status)).getLast? with
  | none => source.kind.defaultAction status
  | some criterion => if criterion.action = Action.stop.word then .stop else .goOn

def withoutCriteria (source : Source) : Source :=
  { source with criteria := [] }

/-- The kind of source whose success ended the lookup, if one did. -/
def answering? (statusOf : SourceKind → Status) : List Source → Option SourceKind
  | [] => none
  | source :: rest =>
      let status := statusOf source.kind
      match source.actionAfter status with
      | .stop => if status = .success then some source.kind else none
      | .goOn => answering? statusOf rest

theorem answering?_cons_withoutCriteria (statusOf : SourceKind → Status)
    (source : Source) (rest : List Source) :
    answering? statusOf (source.withoutCriteria :: rest) =
      if statusOf source.kind = .success then some source.kind
      else answering? statusOf rest := by
  cases found : statusOf source.kind <;>
    simp [answering?, withoutCriteria, actionAfter, SourceKind.defaultAction, found]

end Source

end ResolverChoice
