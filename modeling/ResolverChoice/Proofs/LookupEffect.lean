/-
What a lookup touches.

A lookup that is settled by the profile or by the form of the name leaves the cache, the clock
and the files alone.  Every other lookup asks the cache for its table once and touches nothing
besides, wherever the sources stop it.  Neither counts what is told to the log.  So lookups of
the first kind can be made at any time without a trace in what later lookups answer.
-/

import ResolverChoice.Proofs.NameSpelling
import ResolverChoice.Proofs.ProfileCourse

namespace ResolverChoice

/-! ### Settled lookups -/

/-- The name ends in the text, in some case of its letters. -/
theorem HostName.endsIn_iff {ending : String}
    (small : Text.foldAscii (Text.ofString ending) = Text.ofString ending) (name : Text) :
    endsIn name ending = true ↔
      ∃ start final, name = start ++ final ∧ Text.SameSpelling final (Text.ofString ending) := by
  unfold endsIn
  rw [List.isSuffixOf_iff_suffix]
  constructor
  · rintro ⟨front, folded⟩
    obtain ⟨start, final, rfl, _, same⟩ := List.map_eq_append_iff.mp folded.symm
    refine ⟨start, final, rfl, (Text.foldAscii_eq_iff _ _).mp ?_⟩
    rw [small]
    exact same
  · rintro ⟨start, final, rfl, spelled⟩
    have same := (Text.foldAscii_eq_iff _ _).mpr spelled
    rw [small] at same
    refine ⟨Text.foldAscii start, ?_⟩
    rw [← same]
    exact List.map_append.symm

theorem HostName.hasEscape_iff (name : Text) :
    hasEscape name = true ↔ .char '\\' ∈ name ∨ .char '%' ∈ name := by
  unfold hasEscape
  rw [Bool.or_eq_true, List.contains_iff_mem, List.contains_iff_mem]

/-- Why a lookup has no use for the switch table. -/
inductive NeedsNoTable (profile : Profile) (host : Text) : Prop where
  | family (listed : profile.family ∈ [.windows, .plan9, .android, .openbsd])
  | forced (native : profile.forcesNative = true)
  | settings (unknown : profile.settings.unknownOption = true)
  | escape (marked : .char '\\' ∈ host ∨ .char '%' ∈ host)
  /-- The name is taken without one dot at its end. -/
  | multicast {start ending : Text} (parts : HostName.withoutFinalDot host = start ++ ending)
      (reserved : Text.SameSpelling ending (Text.ofString ".local"))

theorem needsNoTable_iff {profile : Profile} {host : Text} :
    NeedsNoTable profile host ↔ ¬ConsultsTable profile host := by
  have reserved_iff := HostName.endsIn_iff
    (by decide : Text.foldAscii (Text.ofString ".local") = _) (HostName.withoutFinalDot host)
  constructor
  · intro settled consults
    cases settled with
    | family listed =>
        have listedAway : ∀ family ∈ [Family.windows, .plan9, .android, .openbsd],
            family.usesCLibrary = false ∨ family = .android ∨ family = .openbsd := by decide
        rcases listedAway _ listed with library | android | openbsd
        · cases library.symm.trans consults.usesCLibrary
        · exact consults.notAndroid android
        · exact consults.notOpenbsd openbsd
    | forced native => cases native.symm.trans consults.notForced
    | settings unknown => cases unknown.symm.trans consults.understood
    | escape marked =>
        cases ((HostName.hasEscape_iff host).mpr marked).symm.trans consults.plain
    | multicast parts reserved =>
        cases (reserved_iff.mpr ⟨_, _, parts, reserved⟩).symm.trans consults.notMulticast
  · intro settled
    by_contra undecided
    have unlisted : profile.family ∉ [.windows, .plan9, .android, .openbsd] :=
      fun listed => undecided (.family listed)
    simp only [List.mem_cons, List.not_mem_nil, or_false, not_or] at unlisted
    obtain ⟨notWindows, notPlan9, notAndroid, notOpenbsd⟩ := unlisted
    apply settled
    refine ⟨?_, notAndroid, notOpenbsd, ?_, ?_, ?_, ?_⟩
    · exact Bool.and_eq_true_iff.mpr ⟨bne_iff_ne.mpr notWindows, bne_iff_ne.mpr notPlan9⟩
    · exact Bool.eq_false_iff.mpr fun native => undecided (.forced native)
    · exact Bool.eq_false_iff.mpr fun unknown => undecided (.settings unknown)
    · refine Bool.eq_false_iff.mpr fun escape => undecided (.escape ?_)
      exact (HostName.hasEscape_iff host).mp escape
    · refine Bool.eq_false_iff.mpr fun multicast => ?_
      obtain ⟨start, ending, parts, reserved⟩ := reserved_iff.mp multicast
      exact undecided (.multicast parts reserved)

/-! ### Cache, clock and files -/

/-- The machine without what was told to its log.  What remains of the trace are the readings
of the clock and the files that were opened or examined. -/
def Machine.withoutNotices (machine : Machine) : Machine :=
  { machine with trace := machine.trace.filter (fun event => event.notice?.isNone) }

namespace ResolverState

section

variable {profile : Profile} {host : Text} {options : Option LookupOptions}
  {state other : ResolverState}

theorem withoutNotices_told (state : ResolverState) (profile : Profile) (host : Text)
    (chosen : Route) :
    (state.told profile host chosen).machine.withoutNotices = state.machine.withoutNotices := by
  unfold told
  split
  · simp only [Machine.withoutNotices, Machine.leave, List.filter_append]
    rw [List.filter_cons_of_neg Bool.false_ne_true, List.filter_nil, List.append_nil]
  · rfl

/-- Both have the cache, and their machines differ in nothing but what was logged. -/
structure TouchedLike (state other : ResolverState) : Prop where
  tables : state.tables = other.tables
  machine : state.machine.withoutNotices = other.machine.withoutNotices

theorem touchedLike_consulted (profile : Profile) (host : Text)
    (options : Option LookupOptions) (state : ResolverState) :
    ((route profile host options).run state).2.TouchedLike (state.consulted profile host) := by
  rw [run_route]
  exact ⟨tables_told _ _ _ _, withoutNotices_told _ _ _ _⟩

/-! ### Runs of lookups -/

/-- A lookup, or a change of the machine from outside. -/
inductive RunStep where
  | lookup (profile : Profile) (host : Text) (options : Option LookupOptions)
  | change (files : String → Option FileNode) (hostName : Except RecordedError Text)
      (clock : Clock)

def afterStep (state : ResolverState) : RunStep → ResolverState
  | .lookup profile host options => ((route profile host options).run state).2
  | .change files hostName clock =>
      { state with
        machine := { state.machine with files := files, hostName := hostName, clock := clock } }

theorem afterStep_lookup (profile : Profile) (host : Text) (options : Option LookupOptions)
    (state : ResolverState) :
    ∃ chosen, state.afterStep (.lookup profile host options) =
      (state.consulted profile host).told profile host chosen :=
  ⟨_, congrArg Prod.snd (run_route profile host options state)⟩

def afterRun (state : ResolverState) (steps : List RunStep) : ResolverState :=
  steps.foldl afterStep state

/-- The first run is the second one with lookups made in between that need no table. -/
inductive Interspersed : List RunStep → List RunStep → Prop where
  | nil : Interspersed [] []
  | kept {steps others : List RunStep} (step : RunStep) (rest : Interspersed steps others) :
      Interspersed (step :: steps) (step :: others)
  | added {steps others : List RunStep} {profile : Profile} {host : Text}
      (options : Option LookupOptions) (settled : NeedsNoTable profile host)
      (rest : Interspersed steps others) :
      Interspersed (.lookup profile host options :: steps) others

theorem LooksUpLike.symm (like : state.LooksUpLike other) : other.LooksUpLike state := by
  refine ⟨like.tables.symm, ?_⟩
  rw [← like.tables]
  exact ⟨like.machine.file.symm, like.machine.clock.symm, like.machine.hostName.symm⟩

theorem LooksUpLike.told_left (like : state.LooksUpLike other) (profile : Profile) (host : Text)
    (chosen : Route) : (state.told profile host chosen).LooksUpLike other := by
  unfold told
  split
  · exact ⟨like.tables, like.machine.file, like.machine.clock, like.machine.hostName⟩
  · exact like

theorem LooksUpLike.afterConsulting (like : state.LooksUpLike other) (profile : Profile)
    (host : Text) : (state.consulted profile host).LooksUpLike (other.consulted profile host) := by
  unfold ResolverState.consulted
  split
  · refine ⟨like.systemTable.tables, ?_⟩
    have looked := KeepsAgreement.lookup state.tables state.machine other.machine like.machine
    rw [path_systemTable, run_systemTable, run_systemTable, ← like.tables]
    exact looked.2
  · exact like

/-- What follows a step sees the same if the step saw the same. -/
theorem LooksUpLike.afterStep (like : state.LooksUpLike other) (step : RunStep) :
    (state.afterStep step).LooksUpLike (other.afterStep step) := by
  cases step with
  | lookup profile host options =>
      have consulting := like.afterConsulting profile host
      obtain ⟨chosen, reached⟩ := afterStep_lookup profile host options state
      obtain ⟨otherChosen, otherReached⟩ := afterStep_lookup profile host options other
      rw [reached, otherReached]
      exact ((consulting.told_left _ _ chosen).symm.told_left _ _ otherChosen).symm
  | change files hostName clock => exact ⟨like.tables, rfl, rfl, rfl⟩

theorem LooksUpLike.afterSettled (like : state.LooksUpLike other)
    (settled : NeedsNoTable profile host) (options : Option LookupOptions) :
    (state.afterStep (.lookup profile host options)).LooksUpLike other := by
  obtain ⟨chosen, reached⟩ := afterStep_lookup profile host options state
  rw [reached, consulted_of_settled (needsNoTable_iff.mp settled)]
  exact like.told_left profile host chosen

theorem LooksUpLike.afterRun {steps others : List RunStep}
    (interspersed : Interspersed steps others) (like : state.LooksUpLike other) :
    (state.afterRun steps).LooksUpLike (other.afterRun others) := by
  -- Both runs go on from states that are alike, and so do they after each pair of steps.
  induction interspersed generalizing state other with
  | nil => exact like
  | kept step rest ih => exact ih (like.afterStep step)
  | added options settled rest ih => exact ih (like.afterSettled settled options)

variable (profile host options state)

/-- A lookup that needs no table touches nothing, and every other one touches what one lookup
of the cache touches.  Lookups that need no table may be made between others, and whatever is
looked up after that is answered as without them. -/
theorem lookup_touches_at_most_the_cache :
    (NeedsNoTable profile host →
      ((route profile host options).run state).2.TouchedLike state) ∧
    (¬NeedsNoTable profile host →
      ((route profile host options).run state).2.TouchedLike
        { state with
          tables := (state.tables.lookup.run state.machine).1.2
          machine := (state.tables.lookup.run state.machine).2 }) ∧
    ∀ steps others, Interspersed steps others →
      ((route profile host options).run (state.afterRun steps)).1 =
        ((route profile host options).run (state.afterRun others)).1 := by
  have touched := touchedLike_consulted profile host options state
  refine ⟨?_, ?_, ?_⟩
  · intro settled
    rw [consulted_of_settled (needsNoTable_iff.mp settled)] at touched
    exact touched
  · intro undecided
    rw [needsNoTable_iff, not_not] at undecided
    rw [consulted_of_consults undecided, run_systemTable] at touched
    exact touched
  · intro steps others interspersed
    have like : state.LooksUpLike state := ⟨rfl, rfl, rfl, rfl⟩
    exact ((like.afterRun interspersed).route profile host options).answer

end

/-- A name that is reserved for multicast lookups, told to the log when it is looked up. -/
def printerLookup : RunStep :=
  .lookup { debugLevel := 2 } (Text.ofString "printer.LOCAL.") none

def newFiles : RunStep :=
  .change (fun _ => some { modified := 1 }) (.ok (Text.ofString "box"))
    { reading := 1010, later := [1010, 1016] }

def localhostLookup : RunStep :=
  .lookup {} (Text.ofString "localhost") none

/-- The lookup of the second name stops at the source that asks the machine for its own. -/
theorem printer_among_lookups :
    (askingItself.afterStep printerLookup).TouchedLike askingItself ∧
      (askingItself.afterStep localhostLookup).TouchedLike
        { askingItself with
          tables := (askingItself.tables.lookup.run askingItself.machine).1.2
          machine := (askingItself.tables.lookup.run askingItself.machine).2 } ∧
      ((route {} (Text.ofString "example.com") none).run (askingItself.afterRun
          [printerLookup, newFiles, localhostLookup, printerLookup])).1 =
        ((route {} (Text.ofString "example.com") none).run (askingItself.afterRun
          [newFiles, localhostLookup])).1 := by
  have settled : NeedsNoTable { debugLevel := 2 } (Text.ofString "printer.LOCAL.") :=
    @NeedsNoTable.multicast _ _ (Text.ofString "printer") (Text.ofString ".LOCAL")
      (by decide) ((Text.foldAscii_eq_iff _ _).mp (by decide))
  have undecided : ¬NeedsNoTable {} (Text.ofString "localhost") := by
    rw [needsNoTable_iff, not_not]
    exact ⟨rfl, by decide, by decide, rfl, rfl, by decide, by decide⟩
  refine ⟨?_, ?_, ?_⟩
  · exact (lookup_touches_at_most_the_cache _ _ none askingItself).1 settled
  · exact (lookup_touches_at_most_the_cache _ _ none askingItself).2.1 undecided
  · refine (lookup_touches_at_most_the_cache _ _ none askingItself).2.2 _ _ ?_
    exact .added none settled (.kept newFiles (.kept localhostLookup
      (.added none settled .nil)))

end ResolverState

end ResolverChoice
