/-
The walk through the sources for hosts.

The walk is a fold that may be broken off.  `stopsWalk` says which sources break it
off, in whatever order they stand, and `Tally.note` what the others add to the tally.
The invariant of the fold is that the kinds noted so far answer like the kinds of all
sources gone through: repetitions and sources of other kinds make no difference.
-/

import ResolverChoice.Route.Sources

namespace ResolverChoice

/-- Files and name servers are the kinds that a route can ask. -/
def SourceKind.looksUp (kind : SourceKind) : Bool :=
  kind == .files || kind == .dns

def Source.stopsWalk (ownName : Bool) (source : Source) : Bool :=
  match source.kind with
  | .files | .dns => !source.hasNeutralCriteria
  | .myhostname => ownName
  | .mdns => false
  | .other => true

namespace Tally

def note (tally : Tally) (source : Source) : Tally :=
  match source.kind with
  | .files => tally.meet .files
  | .dns => tally.meet .dns
  | .mdns => { tally with multicast := true }
  | .myhostname | .other => tally

/-! ### Breaking off -/

theorem add?_eq (ownName : Bool) (tally : Tally) (source : Source) :
    add? ownName tally source =
      if source.stopsWalk ownName then none else some (tally.note source) := by
  unfold add? Source.stopsWalk note
  cases source.kind with
  | files => cases source.hasNeutralCriteria <;> rfl
  | dns => cases source.hasNeutralCriteria <;> rfl
  | myhostname => rfl
  | mdns => rfl
  | other => rfl

theorem foldlM_add? (ownName : Bool) (sources : List Source) (tally : Tally) :
    sources.foldlM (add? ownName) tally =
      if sources.any (Source.stopsWalk ownName) then none
      else some (sources.foldl note tally) := by
  induction sources generalizing tally with
  | nil => rfl
  | cons source rest ih =>
      rw [List.foldlM_cons, add?_eq, List.any_cons, List.foldl_cons]
      by_cases stops : source.stopsWalk ownName = true
      · simp only [stops, if_true, Bool.true_or]
        rfl
      · rw [Bool.not_eq_true] at stops
        simp only [stops, Bool.false_eq_true, if_false, Bool.false_or]
        exact ih (tally.note source)

/-! ### Multicast -/

theorem multicast_meet (tally : Tally) (kind : SourceKind) :
    (tally.meet kind).multicast = tally.multicast := by
  unfold meet
  split <;> rfl

theorem multicast_note (tally : Tally) (source : Source) :
    (tally.note source).multicast = (tally.multicast || source.kind == .mdns) := by
  unfold note
  cases source.kind with
  | files => rw [multicast_meet]; exact (Bool.or_false _).symm
  | dns => rw [multicast_meet]; exact (Bool.or_false _).symm
  | mdns => exact (Bool.or_true _).symm
  | myhostname => exact (Bool.or_false _).symm
  | other => exact (Bool.or_false _).symm

theorem multicast_foldl_note (sources : List Source) (tally : Tally) :
    (sources.foldl note tally).multicast =
      (tally.multicast || sources.any (fun source => source.kind == .mdns)) := by
  induction sources generalizing tally with
  | nil => exact (Bool.or_false _).symm
  | cons source rest ih =>
      rw [List.foldl_cons, ih, multicast_note, List.any_cons, Bool.or_assoc]

/-! ### Kinds -/

/-- Meeting a kind for a second time changes no search. -/
theorem find?_kinds_meet (accepts : SourceKind → Bool) (tally : Tally) (kind : SourceKind) :
    (tally.meet kind).kinds.find? accepts = (tally.kinds ++ [kind]).find? accepts := by
  unfold meet
  split
  · rename_i met
    rw [List.find?_append]
    cases search : tally.kinds.find? accepts with
    | some found => rfl
    | none =>
        have refused := List.find?_eq_none.mp search kind met
        rw [List.find?_cons_of_neg refused]
        rfl
  · rfl

theorem find?_kinds_note {accepts : SourceKind → Bool} {source : Source}
    (relevant : source.kind.looksUp = false → accepts source.kind = false) (tally : Tally) :
    (tally.note source).kinds.find? accepts =
      (tally.kinds ++ [source.kind]).find? accepts := by
  have skipped (kind : SourceKind) (same : source.kind = kind)
      (ignored : kind.looksUp = false) :
      tally.kinds.find? accepts = (tally.kinds ++ [kind]).find? accepts := by
    subst same
    have refused := Bool.eq_false_iff.mp (relevant ignored)
    rw [List.find?_append, List.find?_cons_of_neg refused, List.find?_nil, Option.or_none]
  unfold note
  cases kind : source.kind with
  | files => exact find?_kinds_meet accepts tally .files
  | dns => exact find?_kinds_meet accepts tally .dns
  | mdns => exact skipped .mdns kind rfl
  | myhostname => exact skipped .myhostname kind rfl
  | other => exact skipped .other kind rfl

/-- The invariant of the walk, for any search that looks for files and name servers
only. -/
theorem find?_kinds_foldl_note {accepts : SourceKind → Bool} {sources : List Source}
    (relevant : ∀ source ∈ sources,
      source.kind.looksUp = false → accepts source.kind = false) (tally : Tally) :
    (sources.foldl note tally).kinds.find? accepts =
      (tally.kinds ++ sources.map Source.kind).find? accepts := by
  induction sources generalizing tally with
  | nil => rw [List.foldl_nil, List.map_nil, List.append_nil]
  | cons source rest ih =>
      have others := ih (fun other member => relevant other (List.mem_cons_of_mem source member))
      rw [List.foldl_cons, others, List.find?_append,
        find?_kinds_note (relevant source List.mem_cons_self), ← List.find?_append,
        List.append_assoc, List.map_cons, List.singleton_append]

/-- Each kind is noted once, so there are five tallies. -/
def arrangements : List (List SourceKind) :=
  [[], [.files], [.dns], [.files, .dns], [.dns, .files]]

theorem kinds_note_mem_arrangements {tally : Tally} (source : Source)
    (arranged : tally.kinds ∈ arrangements) : (tally.note source).kinds ∈ arrangements := by
  have met (kind : SourceKind) (asked : kind = .files ∨ kind = .dns) :
      (tally.meet kind).kinds ∈ arrangements := by
    obtain ⟨kinds, multicast⟩ := tally
    simp only [arrangements, List.mem_cons, List.not_mem_nil, or_false] at arranged
    rcases asked with rfl | rfl <;> rcases arranged with rfl | rfl | rfl | rfl | rfl <;>
      cases multicast <;> decide
  unfold note
  cases source.kind with
  | files => exact met .files (Or.inl rfl)
  | dns => exact met .dns (Or.inr rfl)
  | mdns => exact arranged
  | myhostname => exact arranged
  | other => exact arranged

theorem kinds_foldl_note_mem_arrangements (sources : List Source) {tally : Tally}
    (arranged : tally.kinds ∈ arrangements) :
    (sources.foldl note tally).kinds ∈ arrangements := by
  induction sources generalizing tally with
  | nil => exact arranged
  | cons source rest ih => exact ih (kinds_note_mem_arrangements source arranged)

end Tally

end ResolverChoice
