/-
Lookups on machines that agree where a cache looks.

A cache sees the clock and the file at its path, and a lookup sees the machine's own name
besides.  Machines that agree on these three cannot be told apart by lookups, whatever else
is on them: the same answers come back and the same cache is left.
-/

import ResolverChoice.Proofs.LookupCourse

namespace ResolverChoice

/-- The machines agree on all that a lookup through a cache for the path sees. -/
structure Machine.AgreesAt (path : String) (machine other : Machine) : Prop where
  file : machine.files path = other.files path
  clock : machine.clock = other.clock
  hostName : machine.hostName = other.hostName

namespace Machine.AgreesAt

variable {path : String} {machine other : Machine}

theorem ownHostName (agrees : AgreesAt path machine other) :
    machine.ownHostName = other.ownHostName := by
  unfold Machine.ownHostName
  rw [agrees.hostName]

theorem modified? (agrees : AgreesAt path machine other) :
    machine.modified? path = other.modified? path := by
  unfold Machine.modified?
  rw [agrees.file]

theorem fileAt (agrees : AgreesAt path machine other) :
    machine.fileAt path = other.fileAt path := by
  unfold Machine.fileAt
  rw [agrees.file]

/-- What the machines did before makes no difference. -/
theorem leave (agrees : AgreesAt path machine other) (events others : List Event) :
    AgreesAt path (machine.leave events) (other.leave others) :=
  ⟨agrees.file, agrees.clock, agrees.hostName⟩

end Machine.AgreesAt

/-- The action gives the same on machines that agree, and they agree afterwards. -/
def KeepsAgreement {α : Type} (path : String) (action : OnMachine α) : Prop :=
  ∀ machine other : Machine, machine.AgreesAt path other →
    (action.run machine).1 = (action.run other).1 ∧
      ((action.run machine).2).AgreesAt path (action.run other).2

theorem KeepsAgreement.of_parts (path : String) :
    HoldsOfParts path (fun _ action => KeepsAgreement path action) where
  pure _ := fun _ _ agrees => ⟨rfl, agrees⟩
  bind := by
    intro α β action next first later machine other agrees
    obtain ⟨sameValue, stillAgree⟩ := first machine other agrees
    rw [Machine.run_bind, Machine.run_bind, sameValue]
    exact later _ _ _ stillAgree
  log _ := fun _ _ agrees => ⟨rfl, agrees.leave _ _⟩
  readClock := by
    intro machine other agrees
    rw [Machine.run_readClock, Machine.run_readClock]
    refine ⟨congrArg Clock.reading agrees.clock, agrees.file, ?_, agrees.hostName⟩
    exact congrArg Clock.advance agrees.clock
  readModified := fun _ _ agrees =>
    ⟨(agrees.leave [.examined path] [.examined path]).modified?, agrees.leave _ _⟩
  readFile := by
    intro machine other agrees
    rw [Machine.run_readFile, Machine.run_readFile]
    exact ⟨agrees.fileAt, agrees.leave _ _⟩

theorem KeepsAgreement.lookup (cache : TableCache) : KeepsAgreement cache.path cache.lookup :=
  (of_parts cache.path).lookup

/-! ### Lookups -/

namespace ResolverState

/-- From both states the action gives the same and leaves the same cache. -/
structure SameFrom {α : Type} (action : OnState α) (state other : ResolverState) : Prop where
  answer : (action.run state).1 = (action.run other).1
  tables : (action.run state).2.tables = (action.run other).2.tables

/-- Both have the same cache, and their machines agree where it looks. -/
structure LooksUpLike (state other : ResolverState) : Prop where
  tables : state.tables = other.tables
  machine : state.machine.AgreesAt state.tables.path other.machine

section

variable {state other : ResolverState}

theorem LooksUpLike.systemTable (like : state.LooksUpLike other) :
    SameFrom systemTable state other := by
  have looked := KeepsAgreement.lookup state.tables state.machine other.machine like.machine
  have same : (state.tables.lookup.run state.machine).1 =
      (other.tables.lookup.run other.machine).1 := by
    rw [looked.1, like.tables]
  have sameTable := congrArg Prod.fst same
  have sameCache := congrArg Prod.snd same
  exact ⟨sameTable, sameCache⟩

theorem LooksUpLike.consulted (like : state.LooksUpLike other) (profile : Profile)
    (host : Text) :
    (state.consulted profile host).tables = (other.consulted profile host).tables := by
  unfold ResolverState.consulted
  split
  · exact like.systemTable.tables
  · exact like.tables

/-- The log is told in the machine's trace, which is no part of the cache. -/
theorem tables_told (state : ResolverState) (profile : Profile) (host : Text) (route : Route) :
    (state.told profile host route).tables = state.tables := by
  unfold told
  split
  · rfl
  · rfl

/-- The answer and the cache of a lookup are the same wherever the lookup sees the same. -/
theorem LooksUpLike.route (like : state.LooksUpLike other) (profile : Profile) (host : Text)
    (options : Option LookupOptions) : SameFrom (route profile host options) state other where
  answer := by
    rw [run_route, run_route, like.machine.ownHostName, like.systemTable.answer]
  tables := by
    rw [run_route, run_route, tables_told, tables_told]
    exact like.consulted profile host

theorem LooksUpLike.allowsNative (like : state.LooksUpLike other) (profile : Profile) :
    SameFrom (allowsNative profile) state other where
  answer := by
    rw [fst_run_allowsNative, fst_run_allowsNative, (like.route profile [] none).answer]
  tables := (like.route profile [] none).tables

end

end ResolverState

end ResolverChoice
