/-
How a program comes by its profile.

A profile that is held is given out again; otherwise one is built and held, or the build
fails and nothing is held.  `ResolverState.systemProfile_course` says that there is no
other course.  In each of them the switch table's cache, the clock and all that the machine
was set up with stay as they were, so what is asked under the profile sees the same.
-/

import ResolverChoice.Proofs.BuildFrame
import ResolverChoice.Proofs.CacheAgreement
import ResolverChoice.Proofs.CacheHistory

namespace ResolverChoice

namespace Machine

/-- What a build gives on the machine as it is. -/
def buildNow (machine : Machine) : Except Fault Profile :=
  (machine.profileRequest.build.run machine).1

theorem SameWorld.profileRequest {before after : Machine} (same : before.SameWorld after) :
    after.profileRequest = before.profileRequest := by
  simp only [Machine.profileRequest, Machine.family, same.environment, same.platform,
    same.hasAndroidLevel]

theorem SameWorld.buildNow {before after : Machine} (same : before.SameWorld after) :
    after.buildNow = before.buildNow := by
  obtain ⟨result, events, _, given⟩ := FromFiles.build before.profileRequest before
  unfold Machine.buildNow
  rw [same.profileRequest, given before rfl, given after same.files]

theorem sameWorld_leave (machine : Machine) (events : List Event) :
    machine.SameWorld (machine.leave events) :=
  ⟨rfl, rfl, rfl, rfl, rfl⟩

end Machine

namespace ResolverState

/-! ### The courses -/

/-- What is given out and the state that remains. -/
inductive ProfileCourse (state : ResolverState) :
    Except Fault BuiltProfile → ResolverState → Prop where
  | kept {built : BuiltProfile} (held : state.built = some built) :
      ProfileCourse state (.ok built) state
  | made {profile : Profile} {events : List Event} (empty : state.built = none)
      (given : state.machine.buildNow = .ok profile)
      (quiet : ∀ event ∈ events, event.OpensOrTells ResolverSettings.standardPath) :
      ProfileCourse state (.ok { profile := profile, generation := state.builds + 1 })
        { state with
          machine := state.machine.leave events
          built := some { profile := profile, generation := state.builds + 1 }
          builds := state.builds + 1 }
  | failed {fault : Fault} {events : List Event} (empty : state.built = none)
      (refused : state.machine.buildNow = .error fault)
      (quiet : ∀ event ∈ events, event.OpensOrTells ResolverSettings.standardPath) :
      ProfileCourse state (.error fault) { state with machine := state.machine.leave events }

theorem systemProfile_course (state : ResolverState) :
    ProfileCourse state (systemProfile.run state).1 (systemProfile.run state).2 := by
  obtain ⟨machine, tables, held, builds⟩ := state
  cases held with
  | some built => exact .kept rfl
  | none =>
      obtain ⟨result, events, quiet, given⟩ := FromFiles.build machine.profileRequest machine
      have run := given machine rfl
      have now : machine.buildNow = result := congrArg Prod.fst run
      unfold systemProfile
      simp only [StateT.run_bind, StateT.run_get, pure_bind, run_onMachine, run]
      cases result with
      | error fault => exact .failed rfl now quiet
      | ok profile => exact .made rfl now quiet

namespace ProfileCourse

variable {state after : ResolverState} {result : Except Fault BuiltProfile}

theorem looksUpLike (course : ProfileCourse state result after) : after.LooksUpLike state := by
  cases course with
  | kept held => exact ⟨rfl, rfl, rfl, rfl⟩
  | made empty given quiet => exact ⟨rfl, rfl, rfl, rfl⟩
  | failed empty refused quiet => exact ⟨rfl, rfl, rfl, rfl⟩

/-- Whoever asks next gets the same, and so do all who ask after that. -/
theorem again {next : Except Fault BuiltProfile} {later : ResolverState}
    (first : ProfileCourse state result after) (second : ProfileCourse after next later) :
    next = result ∧ ProfileCourse state result later := by
  cases first with
  | kept held =>
      cases second with
      | kept stillHeld =>
          obtain rfl := Option.some.inj (held.symm.trans stillHeld)
          exact ⟨rfl, .kept held⟩
      | made empty given quiet => cases held.symm.trans empty
      | failed empty refused quiet => cases held.symm.trans empty
  | @made profile events empty given quiet =>
      cases second with
      | kept held =>
          obtain rfl := Option.some.inj held
          exact ⟨rfl, .made empty given quiet⟩
      | made stillEmpty _ _ => cases stillEmpty
      | failed stillEmpty _ _ => cases stillEmpty
  | @failed fault events empty refused quiet =>
      -- The machine is set up as it was, so another build ends as the first one did.
      have same := (state.machine.sameWorld_leave events).buildNow
      cases second with
      | kept held => cases empty.symm.trans held
      | made stillEmpty given laterQuiet => cases refused.symm.trans (same.symm.trans given)
      | @failed other others stillEmpty again laterQuiet =>
          obtain rfl := Except.error.inj (refused.symm.trans (same.symm.trans again))
          rw [Machine.leave_leave]
          exact ⟨rfl, .failed empty refused (List.forall_mem_append.mpr ⟨quiet, laterQuiet⟩)⟩

end ProfileCourse

/-- Several callers get what the first one gets. -/
theorem generations_course (others : Nat) (state : ResolverState) :
    ∃ result after, ProfileCourse state result after ∧
      (Session.generations (others + 1)).run state =
        (List.replicate (others + 1) (result.map BuiltProfile.generation), after) := by
  induction others generalizing state with
  | zero => exact ⟨_, _, systemProfile_course state, rfl⟩
  | succ others ih =>
      have first := systemProfile_course state
      obtain ⟨result, after, second, run⟩ := ih (systemProfile.run state).2
      obtain ⟨same, course⟩ := first.again second
      refine ⟨_, _, course, ?_⟩
      change ((systemProfile.run state).1.map BuiltProfile.generation ::
        ((Session.generations (others + 1)).run (systemProfile.run state).2).1,
          ((Session.generations (others + 1)).run (systemProfile.run state).2).2) = _
      rw [run, same]
      rfl

theorem run_systemProfile_bind {α : Type} (ask : Profile → OnState α) (state : ResolverState) :
    (do match ← systemProfile with
        | .error fault => return .error fault
        | .ok built => return .ok (← ask built.profile) : OnState (Except Fault α)).run state =
      askUnder ask ((systemProfile.run state).1.map BuiltProfile.profile)
        (systemProfile.run state).2 := by
  rw [StateT.run_bind]
  generalize systemProfile.run state = reached
  obtain ⟨result, ready⟩ := reached
  cases result with
  | error fault => rfl
  | ok built => rfl

end ResolverState

/-! ### Files that a lookup opens -/

namespace TableCache

variable {cache later : TableCache} {machine : Machine} {readings : List Seconds}
  {events : List Event} {table : SwitchTable}

theorem Course.path (course : Course cache machine readings events table later) :
    later.path = cache.path := by
  cases course with
  | served held fresh => rfl
  | kept held stale current => rfl
  | reread outdated => rfl

theorem Course.opened (course : Course cache machine readings events table later)
    {path : String} (opened : path ∈ events.filterMap Event.opened?) : path = cache.path := by
  cases course with
  | served held fresh => cases opened
  | kept held stale current =>
      rw [opened_examination] at opened
      cases opened
  | reread outdated =>
      rw [List.filterMap_append, List.filterMap_cons_none (by rfl),
        Machine.opened_readingEvents, List.mem_append, List.mem_singleton] at opened
      refine opened.resolve_left ?_
      cases cache.table with
      | none => exact List.not_mem_nil
      | some table => rw [Option.elim_some, opened_examination]; exact List.not_mem_nil

end TableCache

namespace ResolverState

variable {state : ResolverState} {path : String}

theorem path_systemTable (state : ResolverState) :
    (systemTable.run state).2.tables.path = state.tables.path := by
  obtain ⟨readings, events, _, course⟩ := state.tables.lookup_course state.machine
  exact course.path

theorem opened_systemTable
    (opened : path ∈ (systemTable.run state).2.machine.openedPaths) :
    path ∈ state.machine.openedPaths ∨ path = state.tables.path := by
  obtain ⟨readings, events, trace, course⟩ := state.tables.lookup_course state.machine
  change path ∈ (state.tables.lookup.run state.machine).2.trace.filterMap Event.opened? at opened
  rw [trace, List.filterMap_append, List.filterMap_append, Event.opened_clockRead,
    List.nil_append, List.mem_append] at opened
  exact opened.imp_right course.opened

/-- A lookup keeps to the file of the switch table. -/
theorem opened_route {profile : Profile} {host : Text} {options : Option LookupOptions}
    (opened : path ∈ ((route profile host options).run state).2.machine.openedPaths) :
    path ∈ state.machine.openedPaths ∨ path = state.tables.path := by
  have consulting : path ∈ (state.consulted profile host).machine.openedPaths →
      path ∈ state.machine.openedPaths ∨ path = state.tables.path := by
    unfold consulted
    split
    · exact opened_systemTable
    · exact Or.inl
  rw [run_route] at opened
  dsimp only [told] at opened
  split at opened
  · apply consulting
    simpa [Machine.openedPaths, Machine.leave, Event.opened?] using opened
  · exact consulting opened

theorem path_route (profile : Profile) (host : Text) (options : Option LookupOptions)
    (state : ResolverState) :
    ((route profile host options).run state).2.tables.path = state.tables.path := by
  rw [run_route, tables_told]
  unfold consulted
  split
  · exact path_systemTable state
  · rfl

theorem built_route (profile : Profile) (host : Text) (options : Option LookupOptions)
    (state : ResolverState) :
    ((route profile host options).run state).2.built = state.built := by
  rw [run_route]
  unfold told consulted
  split
  · split
    · rfl
    · rfl
  · split
    · rfl
    · rfl

/-- What a lookup through a state leaves to the steps after it. -/
structure Continues (before after : ResolverState) : Prop where
  built : after.built = before.built
  path : after.tables.path = before.tables.path
  opened : ∀ path ∈ after.machine.openedPaths,
    path ∈ before.machine.openedPaths ∨ path = before.tables.path

theorem Continues.refl (state : ResolverState) : state.Continues state :=
  ⟨rfl, rfl, fun _ => Or.inl⟩

theorem continues_route (profile : Profile) (host : Text) (options : Option LookupOptions)
    (state : ResolverState) : state.Continues ((route profile host options).run state).2 :=
  ⟨built_route profile host options state, path_route profile host options state,
    fun _ => opened_route⟩

theorem continues_allowsNative (profile : Profile) (state : ResolverState) :
    state.Continues ((allowsNative profile).run state).2 :=
  continues_route profile [] none state

theorem continues_systemTable (state : ResolverState) :
    state.Continues (systemTable.run state).2 :=
  ⟨rfl, path_systemTable state, fun _ => opened_systemTable⟩

theorem continues_askUnder {α : Type} {ask : Profile → OnState α}
    (continues : ∀ profile state, Continues state ((ask profile).run state).2)
    (result : Except Fault Profile) (ready : ResolverState) :
    ready.Continues (askUnder ask result ready).2 := by
  cases result with
  | error fault => exact .refl ready
  | ok profile => exact continues profile ready

end ResolverState

end ResolverChoice
