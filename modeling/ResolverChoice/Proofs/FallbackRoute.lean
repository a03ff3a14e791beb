/-
What a route owes to the fallback.

The fallback is the only way to the native route, and nothing else in a decision looks at
it.  So a decision under any fallback is the one under the native fallback, with the other
fallback in place of the native route.  From this follow both what a request for the
built-in resolver changes and what the name of a host can change.
-/

import ResolverChoice.Proofs.HostRoute
import ResolverChoice.Proofs.LookupCourse

namespace ResolverChoice

/-! ### Another fallback -/

/-- The route, or the fallback in place of the native one. -/
def Route.orFallback (route fallback : Route) : Route :=
  if route = .native then fallback else route

theorem Route.orFallback_of_ne {route : Route} (explicit : route ≠ .native)
    (fallback : Route) : route.orFallback fallback = route :=
  if_neg explicit

theorem routeOfSettings_eq_orFallback (settings : ResolverSettings) (fallback : Route) :
    routeOfSettings settings fallback =
      (routeOfSettings settings .native).orFallback fallback := by
  have explicit : ∀ line ∈ lookupLines, line.2 ≠ .native := by decide
  unfold routeOfSettings
  split
  · rfl
  · split
    · rfl
    · split
      · rename_i line found
        have listed := List.mem_of_find?_eq_some found
        exact (Route.orFallback_of_ne (explicit line listed) fallback).symm
      · rfl

theorem routeBeforeTable?_eq_map_orFallback (profile : Profile) (fallback : Route)
    (host : Text) :
    routeBeforeTable? profile fallback host =
      (routeBeforeTable? profile .native host).map (·.orFallback fallback) := by
  unfold routeBeforeTable?
  rw [routeOfSettings_eq_orFallback]
  -- Every guard is the same on both sides, whatever the fallback is.
  simp only [apply_ite (Option.map _), Option.map_some, Option.map_none]
  rfl

theorem routeWithoutSources_eq_orFallback (profile : Profile) (fallback : Route) :
    routeWithoutSources profile fallback =
      (routeWithoutSources profile .native).orFallback fallback := by
  unfold routeWithoutSources
  split
  · rfl
  · rfl

/-- A list of sources never asks for the native route, which has no kinds of its own. -/
theorem ne_native_of_routeOfSources? {allowsMulticast : Bool} {host : Text}
    {ownName : Except HostNameError Text} {sources : List Source} {route : Route}
    (found : routeOfSources? allowsMulticast host ownName sources = some route) :
    route ≠ .native := by
  rintro rfl
  have kinds := (kinds?_of_routeOfSources? found).1
  cases kinds

theorem routeByTable_eq_orFallback (profile : Profile) (fallback : Route) (host : Text)
    (ownName : Except HostNameError Text) (table : SwitchTable) :
    routeByTable profile fallback host ownName table =
      (routeByTable profile .native host ownName table).orFallback fallback := by
  unfold routeByTable
  split
  · split
    · exact routeWithoutSources_eq_orFallback profile fallback
    · rfl
  · split
    · exact routeWithoutSources_eq_orFallback profile fallback
    · cases found : routeOfSources? profile.allowsMulticast
          (HostName.withoutFinalDot host) ownName (table.sources hostsDatabase) with
      | none => rfl
      | some route =>
          have explicit := ne_native_of_routeOfSources? found
          exact (Route.orFallback_of_ne explicit fallback).symm

/-- The fallback takes the place of the native route and has no other influence. -/
theorem decideRoute_eq_orFallback (profile : Profile) (fallback : Route) (host : Text)
    (ownName : Except HostNameError Text) (table : SwitchTable) :
    decideRoute profile fallback host ownName table =
      (decideRoute profile .native host ownName table).orFallback fallback := by
  unfold decideRoute
  rw [routeBeforeTable?_eq_map_orFallback, routeByTable_eq_orFallback]
  cases routeBeforeTable? profile .native host with
  | none => rfl
  | some route => rfl

/-! ### Asking for the built-in resolver -/

section

open ResolverState

variable {profile : Profile}

theorem Family.builtinRoute_ne_native (family : Family) : family.builtinRoute ≠ .native := by
  cases family <;> decide

/-- The same lookup made plainly, with a request for the built-in resolver, under a profile
that wants it, and with a request not to.  The answers differ where the plain one is the
native route, and the states that the lookups leave differ in the decision that is told. -/
theorem builtin_request_replaces_native (noBuiltin : profile.wantsBuiltin = false)
    (host : Text) (state : ResolverState) :
    ∃ (plain asked : Route) (left : ResolverState),
      asked = plain.orFallback profile.family.builtinRoute ∧ asked ≠ .native ∧
      (route profile host none).run state = (plain, left.told profile host plain) ∧
      (route profile host (some { builtin := true })).run state =
        (asked, left.told profile host asked) ∧
      (∀ options, (route { profile with wantsBuiltin := true } host options).run state =
        (asked, left.told profile host asked)) ∧
      (route profile host (some { builtin := false })).run state =
        (plain, left.told profile host plain) := by
  refine ⟨decideRoute profile .native host state.machine.ownHostName (systemTable.run state).1,
    decideRoute profile profile.family.builtinRoute host state.machine.ownHostName
      (systemTable.run state).1,
    state.consulted profile host, ?_, ?_, ?_, ?_, ?_, ?_⟩
  · exact decideRoute_eq_orFallback _ _ _ _ _
  · rw [decideRoute_eq_orFallback]
    unfold Route.orFallback
    split
    · exact profile.family.builtinRoute_ne_native
    · assumption
  · rw [run_route, fallbackRoute_of_unasked noBuiltin rfl]
  · rw [run_route, fallbackRoute_of_asked (Bool.or_true _)]
  · intro options
    rw [run_route, fallbackRoute_of_asked (Bool.true_or _)]
    rfl
  · rw [run_route, fallbackRoute_of_unasked noBuiltin rfl]

/-- A source of an unknown kind before one of a known kind. -/
def unknownSources : List Source :=
  [.ofName (Text.ofString "nis") [], .ofName (Text.ofString "dns") []]

theorem builtin_request_on_unknown_sources :
    ((route {} (Text.ofString "example.com") none).run
        (serving {} (.ofHosts unknownSources))).1 = .native ∧
      ((route {} (Text.ofString "example.com") (some { builtin := true })).run
        (serving {} (.ofHosts unknownSources))).1 = .filesThenDns := by
  obtain ⟨plain, asked, left, replaced, _, plainly, onRequest, _⟩ :=
    @builtin_request_replaces_native {} rfl (Text.ofString "example.com")
      (serving {} (.ofHosts unknownSources))
  have native : ((route {} (Text.ofString "example.com") none).run
      (serving {} (.ofHosts unknownSources))).1 = .native := by decide +kernel
  refine ⟨native, ?_⟩
  rw [plainly] at native
  change plain = .native at native
  rw [onRequest, replaced, native]
  rfl

end

/-! ### The name of the host -/

section

variable {allowsMulticast : Bool} {hostName : Except RecordedError Text}
  {sources : List Source}

/-- The empty name is the machine's own only where every name may be. -/
theorem MayAnswerItself.of_emptyName (own : MayAnswerItself [] hostName) (host : Text) :
    MayAnswerItself host hostName := by
  rcases own with loopback | gateway | outbound | own
  · exact absurd loopback (by decide)
  · exact absurd gateway (by decide)
  · exact absurd outbound (by decide)
  · refine Or.inr (Or.inr (Or.inr ?_))
    cases hostName with
    | error error => trivial
    | ok name =>
        rcases own with unnamed | same
        · exact Or.inl unnamed
        · exact Or.inl (List.map_eq_nil_iff.mp same.symm)

theorem LeavesDoubt.of_emptyName (doubt : LeavesDoubt allowsMulticast [] hostName sources)
    (host : Text) : LeavesDoubt allowsMulticast host hostName sources := by
  cases doubt with
  | unknownKind listed kind => exact .unknownKind listed kind
  | changedCriteria listed kind changed => exact .changedCriteria listed kind changed
  | ownName listed kind own => exact .ownName listed kind (own.of_emptyName host)
  | multicast listed kind allowed => exact .multicast listed kind allowed
  | nothingToAsk absent => exact .nothingToAsk absent

theorem routeByTable_native_or_eq_emptyName (profile : Profile) (host : Text)
    (machine : Machine) (table : SwitchTable) :
    routeByTable profile .native host machine.ownHostName table = .native ∨
      routeByTable profile .native host machine.ownHostName table =
        routeByTable profile .native [] machine.ownHostName table := by
  unfold routeByTable
  split
  · exact Or.inr rfl
  · split
    · exact Or.inr rfl
    · by_cases doubt : LeavesDoubt profile.allowsMulticast (HostName.withoutFinalDot host)
          machine.hostName (table.sources hostsDatabase)
      · left
        rw [routeOfSources?_eq_none_of_doubt doubt]
        rfl
      · right
        have certain : ¬LeavesDoubt profile.allowsMulticast (HostName.withoutFinalDot [])
            machine.hostName (table.sources hostsDatabase) :=
          fun empty => doubt (LeavesDoubt.of_emptyName empty _)
        rw [routeOfSources?_eq_some_of_no_doubt doubt,
          routeOfSources?_eq_some_of_no_doubt certain]

/-- No test of the name changes one route into another one. -/
theorem decideRoute_native_or_eq_emptyName (profile : Profile) (host : Text)
    (machine : Machine) (table : SwitchTable) :
    decideRoute profile .native host machine.ownHostName table = .native ∨
      decideRoute profile .native host machine.ownHostName table =
        decideRoute profile .native [] machine.ownHostName table := by
  have noEscape : HostName.hasEscape [] = false := by decide
  have notMulticast : HostName.isMulticast (HostName.withoutFinalDot []) = false := by decide
  unfold decideRoute routeBeforeTable?
  rw [noEscape, notMulticast, if_neg Bool.false_ne_true, if_neg Bool.false_ne_true]
  split
  · exact Or.inl rfl
  · split
    · exact Or.inl rfl
    · split
      · exact Or.inl rfl
      · split
        · exact Or.inr rfl
        · split
          · exact Or.inl rfl
          · exact routeByTable_native_or_eq_emptyName profile host machine table

end

section

open ResolverState

variable {profile : Profile} {state other : ResolverState}

theorem route_eq_fallback_or_emptyName (options : Option LookupOptions) (host : Text)
    (sameTable : (systemTable.run state).1 = (systemTable.run other).1)
    (sameName : state.machine.hostName = other.machine.hostName) :
    ((route profile host options).run state).1 = fallbackRoute profile options ∨
      ((route profile host options).run state).1 =
        ((route profile [] options).run other).1 := by
  have ownName : state.machine.ownHostName = other.machine.ownHostName := by
    unfold Machine.ownHostName
    rw [sameName]
  rw [run_route, run_route]
  dsimp only
  rw [decideRoute_eq_orFallback, decideRoute_eq_orFallback profile _ [], ownName, sameTable]
  rcases decideRoute_native_or_eq_emptyName profile host other.machine
    (systemTable.run other).1 with native | same
  · left
    rw [native]
    rfl
  · right
    rw [same]

/-- A name leads to the route of the empty name or to the fallback.  So where the empty
name is left to the C library every name is, and names that are not led to the fallback
have one route.  Two lookups are compared that get the same table and the same own name,
whatever else happened between them. -/
theorem host_leads_to_fallback_only
    (sameTable : (systemTable.run state).1 = (systemTable.run other).1)
    (sameName : state.machine.hostName = other.machine.hostName) :
    (∀ options host,
      ((route profile host options).run state).1 = fallbackRoute profile options ∨
        ((route profile host options).run state).1 =
          ((route profile [] options).run other).1) ∧
    (((allowsNative profile).run other).1 = true →
      ∀ host, ((route profile host none).run state).1 = .native) ∧
    (∀ options first second,
      ((route profile first options).run state).1 ≠ fallbackRoute profile options →
        ((route profile second options).run other).1 ≠ fallbackRoute profile options →
          ((route profile first options).run state).1 =
            ((route profile second options).run other).1) := by
  refine ⟨?_, ?_, ?_⟩
  · intro options host
    exact route_eq_fallback_or_emptyName options host sameTable sameName
  · intro allowed host
    rw [fst_run_allowsNative, beq_iff_eq] at allowed
    rcases route_eq_fallback_or_emptyName none host sameTable sameName with fallback | same
    · -- The fallback is native too, or it would have replaced the native route.
      rw [run_route] at allowed
      dsimp only at allowed
      rw [decideRoute_eq_orFallback] at allowed
      rw [fallback]
      unfold Route.orFallback at allowed
      split at allowed
      · exact allowed
      · contradiction
    · rw [same, allowed]
  · intro options first second firstExplicit secondExplicit
    have firstSame := (route_eq_fallback_or_emptyName options first sameTable
      sameName).resolve_left firstExplicit
    have secondSame := (@route_eq_fallback_or_emptyName profile other other options second
      rfl rfl).resolve_left secondExplicit
    rw [firstSame, secondSame]

/-- A machine whose table was asked about a name that the machine may answer for itself. -/
def afterLocalhost : ResolverState :=
  ((route {} (Text.ofString "localhost") none).run (serving {} (.ofHosts mixedSources))).2

theorem localhost_leads_to_fallback :
    ((route {} [] none).run afterLocalhost).1 = .dnsThenFiles ∧
      ((route {} (Text.ofString "localhost") none).run
        (serving {} (.ofHosts mixedSources))).1 = fallbackRoute {} none := by
  have empty : ((route {} [] none).run afterLocalhost).1 = .dnsThenFiles := by decide +kernel
  have native : ((route {} (Text.ofString "localhost") none).run
      (serving {} (.ofHosts mixedSources))).1 = .native := by decide +kernel
  obtain ⟨leads, _, _⟩ := @host_leads_to_fallback_only {} (serving {} (.ofHosts mixedSources))
    afterLocalhost (by decide +kernel) (sameWorld_route _ _ _ _).hostName.symm
  refine ⟨empty, (leads none (Text.ofString "localhost")).resolve_right ?_⟩
  rw [empty, native]
  decide

end

end ResolverChoice
