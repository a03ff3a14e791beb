/-
Lookups that the switch table decides.

`ConsultsTable` lists what a profile and a host name must have for the table to be
looked at.  For such a lookup the route is a function of the table that the cache
serves and of the machine's own name.
-/

import ResolverChoice.Proofs.MachineFrame

namespace ResolverChoice

/-- Neither the profile nor the form of the name settles the lookup. -/
structure ConsultsTable (profile : Profile) (host : Text) : Prop where
  usesCLibrary : profile.family.usesCLibrary = true
  notAndroid : profile.family ≠ .android
  notOpenbsd : profile.family ≠ .openbsd
  notForced : profile.forcesNative = false
  understood : profile.settings.unknownOption = false
  plain : HostName.hasEscape host = false
  notMulticast : HostName.isMulticast (HostName.withoutFinalDot host) = false

private theorem guarded_eq_none {guard : Prop} [Decidable guard] {decided : Route}
    {rest : Option Route} :
    (if guard then some decided else rest) = none ↔ ¬guard ∧ rest = none := by
  by_cases holds : guard
  · rw [if_pos holds]
    simp only [reduceCtorEq, holds, not_true, false_and]
  · rw [if_neg holds]
    simp only [holds, not_false_iff, true_and]

/-- The exits before the table are all taken for one of the listed reasons. -/
theorem routeBeforeTable?_eq_none_iff (profile : Profile) (fallback : Route) (host : Text) :
    routeBeforeTable? profile fallback host = none ↔ ConsultsTable profile host := by
  simp only [routeBeforeTable?, guarded_eq_none, Bool.not_eq_true', Bool.not_eq_false,
    Bool.or_eq_true, Bool.not_eq_true, beq_iff_eq, not_or, and_true]
  constructor
  · rintro ⟨library, ⟨⟨forced, understood⟩, android⟩, plain, openbsd, multicast⟩
    exact ⟨library, android, openbsd, forced, understood, plain, multicast⟩
  · intro consults
    exact ⟨consults.usesCLibrary,
      ⟨⟨consults.notForced, consults.understood⟩, consults.notAndroid⟩,
      consults.plain, consults.notOpenbsd, consults.notMulticast⟩

namespace ResolverState

variable (profile : Profile) (host : Text) (options : Option LookupOptions)
  (state : ResolverState)

theorem sameWorld_systemTable :
    state.machine.SameWorld ((systemTable.run state).2).machine :=
  KeepsWorld.lookup state.tables state.machine

theorem fst_run_route :
    ((route profile host options).run state).1 =
      ((routeUnder profile host options).run state).1 := by
  unfold route
  change ((if profile.debugLevel > 1 then _ else _ : OnState _).run _).1 = _
  split <;> rfl

theorem fst_run_routeUnder (consults : ConsultsTable profile host) :
    ((routeUnder profile host options).run state).1 =
      routeByTable profile (fallbackRoute profile options) host state.machine.ownHostName
        (systemTable.run state).1 := by
  have undecided := (routeBeforeTable?_eq_none_iff profile
    (fallbackRoute profile options) host).mpr consults
  simp only [routeUnder, undecided]
  change routeByTable profile (fallbackRoute profile options) host
    ((systemTable.run state).2).machine.ownHostName (systemTable.run state).1 = _
  rw [(sameWorld_systemTable state).ownHostName]

/-- A table that is held and fresh is served, whatever the file says. -/
theorem fst_run_systemTable_of_fresh {state : ResolverState} {table : SwitchTable}
    (held : state.tables.table = some table)
    (fresh : state.tables.isFresh state.machine.clock.reading = true) :
    (systemTable.run state).1 = table := by
  change (state.tables.lookup.run state.machine).1.1 = table
  unfold TableCache.lookup
  rw [held]
  change ((if state.tables.isFresh state.machine.clock.reading then pure (table, state.tables)
    else state.tables.getLocked : OnMachine (SwitchTable × TableCache)).run _).1.1 = table
  rw [if_pos fresh]
  rfl

/-- A state whose cache has just checked the table. -/
def serving (machine : Machine) (table : SwitchTable) : ResolverState :=
  { machine := machine
    tables := { table := some table, checkedAt := some machine.clock.reading } }

theorem fst_run_systemTable_serving {machine : Machine}
    (clock : machine.clock.reading = 1000) (table : SwitchTable) :
    (systemTable.run (serving machine table)).1 = table := by
  have fresh : ((1000 : Seconds).minus .binary64 1000).isLess 5 = true := by decide +kernel
  rw [← clock] at fresh
  exact fst_run_systemTable_of_fresh rfl fresh

end ResolverState

/-! ### Tables with sources for hosts -/

/-- The table that lists these sources for hosts and nothing else. -/
def SwitchTable.ofHosts (sources : List Source) : SwitchTable :=
  { entries := sources.map (fun source => { database := hostsDatabase, source := source }) }

theorem SwitchTable.sources_ofHosts (sources : List Source) :
    (SwitchTable.ofHosts sources).sources hostsDatabase = sources := by
  simp only [SwitchTable.ofHosts, SwitchTable.sources, List.filter_map, List.map_map,
    Function.comp_def, beq_self_eq_true, List.map_id']
  exact List.filter_eq_self.mpr (fun _ _ => rfl)

theorem ResolverState.sources_serving (machine : Machine)
    (clock : machine.clock.reading = 1000) (sources : List Source) :
    (systemTable.run (serving machine (.ofHosts sources))).1.error = none ∧
      (systemTable.run (serving machine (.ofHosts sources))).1.sources hostsDatabase =
        sources := by
  rw [fst_run_systemTable_serving clock]
  exact ⟨rfl, SwitchTable.sources_ofHosts sources⟩

theorem routeByTable_of_sources {profile : Profile} {fallback : Route} {host : Text}
    {ownName : Except HostNameError Text} {table : SwitchTable}
    (intact : table.error = none) (listed : table.sources hostsDatabase ≠ []) :
    routeByTable profile fallback host ownName table =
      (routeOfSources? profile.allowsMulticast (HostName.withoutFinalDot host) ownName
        (table.sources hostsDatabase)).getD fallback := by
  simp only [routeByTable, intact]

end ResolverChoice
