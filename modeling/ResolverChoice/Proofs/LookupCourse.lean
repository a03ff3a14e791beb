/-
What a lookup answers and what it leaves behind.

The answer is a function of the profile, the host, the machine's own name and the table
that the cache serves.  A lookup does two things besides: it consults the cache where the
table has a say, and it tells its decision to the log where the profile wants that.
`run_route` says that it does nothing else.
-/

import ResolverChoice.Proofs.CacheCourse
import ResolverChoice.Proofs.TableLookup

namespace ResolverChoice

/-- The route for a host, where the machine's own name and the table are known. -/
def decideRoute (profile : Profile) (fallback : Route) (host : Text)
    (ownName : Except HostNameError Text) (table : SwitchTable) : Route :=
  (routeBeforeTable? profile fallback host).getD
    (routeByTable profile fallback host ownName table)

namespace ResolverState

/-- The state in which a lookup decides.  Which fallback there is makes no difference to
whether the table is consulted. -/
def consulted (state : ResolverState) (profile : Profile) (host : Text) : ResolverState :=
  if (routeBeforeTable? profile .native host).isNone then (systemTable.run state).2 else state

/-- The state after a decision was told to the log. -/
def told (state : ResolverState) (profile : Profile) (host : Text) (route : Route) :
    ResolverState :=
  if profile.debugLevel > 1 then
    { state with machine := state.machine.leave [.logged (.decided host route)] }
  else state

section

variable {profile : Profile} {host : Text}

theorem consulted_of_consults (consults : ConsultsTable profile host)
    (state : ResolverState) : state.consulted profile host = (systemTable.run state).2 := by
  unfold consulted
  rw [(routeBeforeTable?_eq_none_iff profile .native host).mpr consults]
  rfl

theorem consulted_of_settled (settled : ¬ConsultsTable profile host) (state : ResolverState) :
    state.consulted profile host = state := by
  unfold consulted
  rw [if_neg]
  rw [Option.isNone_iff_eq_none, routeBeforeTable?_eq_none_iff]
  exact settled

end

variable (profile : Profile) (host : Text) (options : Option LookupOptions)
  (state : ResolverState)

theorem run_routeUnder :
    (routeUnder profile host options).run state =
      (decideRoute profile (fallbackRoute profile options) host state.machine.ownHostName
          (systemTable.run state).1,
        state.consulted profile host) := by
  unfold decideRoute
  cases early : routeBeforeTable? profile (fallbackRoute profile options) host with
  | some route =>
      have settled : ¬ConsultsTable profile host := by
        rw [← routeBeforeTable?_eq_none_iff profile (fallbackRoute profile options), early]
        exact Option.some_ne_none route
      rw [consulted_of_settled settled]
      simp only [routeUnder, early]
      rfl
  | none =>
      have consults := (routeBeforeTable?_eq_none_iff _ _ _).mp early
      rw [consulted_of_consults consults, Option.getD_none,
        ← fst_run_routeUnder profile host options state consults]
      simp only [routeUnder, early]
      rfl

/-- The whole of a lookup: its answer, and the state that it leaves. -/
theorem run_route :
    (route profile host options).run state =
      (decideRoute profile (fallbackRoute profile options) host state.machine.ownHostName
          (systemTable.run state).1,
        (state.consulted profile host).told profile host
          (decideRoute profile (fallbackRoute profile options) host
            state.machine.ownHostName (systemTable.run state).1)) := by
  unfold route told
  rw [StateT.run_bind, run_routeUnder]
  change (if profile.debugLevel > 1 then _ else _ : OnState Route).run
    (state.consulted profile host) = _
  split
  · rfl
  · rfl

/-- A lookup changes nothing that a later one depends on but the cache and the clock. -/
theorem sameWorld_route :
    state.machine.SameWorld (((route profile host options).run state).2).machine := by
  have consulting : state.machine.SameWorld (state.consulted profile host).machine := by
    unfold consulted
    split
    · exact sameWorld_systemTable state
    · exact .refl state.machine
  rw [run_route]
  dsimp only [told]
  split
  · exact consulting.trans ⟨rfl, rfl, rfl, rfl, rfl⟩
  · exact consulting

theorem fst_run_allowsNative :
    ((allowsNative profile).run state).1 =
      (((route profile [] none).run state).1 == .native) :=
  rfl

/-! ### Asking under a profile -/

section

variable {α : Type}

theorem run_onMachine (action : OnMachine α) :
    (onMachine action).run state =
      ((action.run state.machine).1, { state with machine := (action.run state.machine).2 }) :=
  rfl

/-- What is asked under a profile, if there is one. -/
def askUnder (ask : Profile → OnState α) (result : Except Fault Profile)
    (ready : ResolverState) : Except Fault α × ResolverState :=
  match result with
  | .error fault => (.error fault, ready)
  | .ok profile => (.ok ((ask profile).run ready).1, ((ask profile).run ready).2)

end

end ResolverState

end ResolverChoice
