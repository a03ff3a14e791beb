/-
When a profile cannot be built.

A build reads numbers in two places: the level in the mode setting, and the options
of the resolver settings where the build looks at those at all.  Everything else that
can be wrong with a machine becomes part of the profile, and a lookup under a profile
has no way to fail.
-/

import ResolverChoice.Proofs.SettingsFault

namespace ResolverChoice

/-! ### The mode setting -/

namespace Mode

/-- A part that begins with a digit begins with an ASCII digit, and its ASCII digits
are not too many. -/
def IsReadablePart : Text → Prop
  | [] => True
  | first :: rest =>
      first.isDigit = true →
        first.isAsciiDigit = true ∧
          ((first :: rest).takeWhile Symbol.isAsciiDigit).length ≤ maximumDigits

def partFault? : Text → Option Fault
  | [] => none
  | first :: rest =>
      if first.isDigit then
        faultOf? (readNumeral ((first :: rest).takeWhile Symbol.isAsciiDigit))
      else none

theorem faultOf?_readPart (mode : Mode) (part : Text) :
    faultOf? (mode.readPart part) = partFault? part := by
  cases part with
  | nil => rfl
  | cons first rest =>
      simp only [readPart, partFault?]
      by_cases digit : first.isDigit = true
      · rw [if_pos digit, if_pos digit]
        exact faultOf?_bind_of_ok _ (fun _ => rfl)
      · rw [if_neg digit, if_neg digit]
        rfl

/-- Digits of ASCII are decimal, so only their number and a lack of them matter. -/
theorem isNumeral_asciiDigits_iff (first : Symbol) (rest : Text) :
    IsNumeral ((first :: rest).takeWhile Symbol.isAsciiDigit) ↔
      first.isAsciiDigit = true ∧
        ((first :: rest).takeWhile Symbol.isAsciiDigit).length ≤ maximumDigits := by
  constructor
  · intro numeral
    refine ⟨?_, numeral.short⟩
    cases ascii : first.isAsciiDigit with
    | true => rfl
    | false =>
        have nothing : (first :: rest).takeWhile Symbol.isAsciiDigit = [] :=
          List.takeWhile_cons_of_neg (by rw [ascii]; decide)
        exact absurd nothing numeral.nonempty
  · rintro ⟨ascii, short⟩
    refine ⟨?_, ?_, short⟩
    · rw [List.takeWhile_cons_of_pos ascii]
      exact List.cons_ne_nil _ _
    · intro symbol listed
      have holds := List.all_eq_true.mp List.all_takeWhile symbol listed
      unfold Symbol.isDecimal
      rw [Symbol.decimalValue?_of_isAsciiDigit holds]
      rfl

theorem partFault?_eq_none_iff (part : Text) :
    partFault? part = none ↔ IsReadablePart part := by
  cases part with
  | nil => exact iff_of_true rfl trivial
  | cons first rest =>
      simp only [partFault?, IsReadablePart]
      by_cases digit : first.isDigit = true
      · rw [if_pos digit, faultOf?_readNumeral_eq_none_iff, isNumeral_asciiDigits_iff]
        constructor
        · intro readable _
          exact readable
        · intro readable
          exact readable digit
      · rw [if_neg digit]
        constructor
        · intro _ impossible
          exact absurd impossible digit
        · intro _
          rfl

theorem faultOf?_ofText (setting : Text) :
    faultOf? (ofText setting) = (parts setting).findSome? partFault? :=
  faultOf?_foldlM faultOf?_readPart (parts setting) {}

def IsReadable (setting : Text) : Prop :=
  ∀ part ∈ parts setting, IsReadablePart part

theorem ofText_exists_iff_readable (setting : Text) :
    (∃ mode, ofText setting = .ok mode) ↔ IsReadable setting := by
  rw [exists_ok_iff_faultOf?_eq_none, faultOf?_ofText, List.findSome?_eq_none_iff]
  constructor
  · intro faultless part listed
    exact (partFault?_eq_none_iff part).mp (faultless part listed)
  · intro readable part listed
    exact (partFault?_eq_none_iff part).mpr (readable part listed)

end Mode

namespace ProfileRequest

/-! ### Looking at the settings -/

/-- Nothing settles the profile before the settings are opened. -/
structure OpensSettings (request : ProfileRequest) (mode : Mode) : Prop where
  usesCLibrary : request.family.usesCLibrary = true
  notApple : request.family.isApple = false
  nativeNotRequested : request.wantsNative = false
  nativeNotSet : mode.wantsNative = false
  keepsResolver : request.changesResolver = false
  keepsSettings : request.replacesSettings = false

theorem opensSettings_iff (request : ProfileRequest) (mode : Mode) :
    request.OpensSettings mode ↔
      request.family.usesCLibrary = true ∧
        request.forcesNative (request.start mode) = false := by
  simp only [forcesNative, start, Bool.or_eq_false_iff]
  constructor
  · intro opens
    exact ⟨opens.usesCLibrary,
      ⟨⟨opens.notApple, opens.nativeNotRequested, opens.nativeNotSet⟩,
        opens.keepsResolver⟩, opens.keepsSettings⟩
  · rintro ⟨library, ⟨⟨apple, requested, set⟩, resolver⟩, settings⟩
    exact ⟨library, apple, requested, set, resolver, settings⟩

theorem inspect_exists_iff (request : ProfileRequest) (mode : Mode) (machine : Machine) :
    (∃ profile, ((request.inspect (request.start mode)).run machine).1 = .ok profile) ↔
      (request.OpensSettings mode → machine.HasReadableSettings request.settingsPath) := by
  unfold inspect
  have sameFamily : (request.start mode).family = request.family := rfl
  rw [sameFamily]
  by_cases opens : request.OpensSettings mode
  · obtain ⟨library, unforced⟩ := (opensSettings_iff request mode).mp opens
    rw [library, unforced, forall_prop_of_true opens, ← readSettings_exists_iff_readable]
    apply exists_ok_run_bind_iff
    · intro fault
      rfl
    · intro settings later
      exact ⟨_, rfl⟩
  · -- Both ways out before the settings give a profile.
    refine iff_of_true ?_ (fun impossible => absurd impossible opens)
    rw [opensSettings_iff] at opens
    cases library : request.family.usesCLibrary with
    | false => exact ⟨_, rfl⟩
    | true =>
        cases forced : request.forcesNative (request.start mode) with
        | true => exact ⟨_, rfl⟩
        | false => exact absurd ⟨library, forced⟩ opens

/-! ### Building -/

/-- The setting of the mode, empty where the variable is not set. -/
def modeSetting (request : ProfileRequest) : Text :=
  (request.environment Mode.variableName).getD []

/-- Every number that the build reads on the machine can be read. -/
structure IsBuildable (request : ProfileRequest) (machine : Machine) : Prop where
  mode : Mode.IsReadable request.modeSetting
  settings : ∀ mode, Mode.ofText request.modeSetting = .ok mode →
    request.OpensSettings mode → machine.HasReadableSettings request.settingsPath

theorem build_exists_iff_buildable (request : ProfileRequest) (machine : Machine) :
    (∃ profile, (request.build.run machine).1 = .ok profile) ↔
      request.IsBuildable machine := by
  unfold build
  cases found : Mode.ofVariable (request.environment Mode.variableName) with
  | error fault =>
      have read : Mode.ofText request.modeSetting = .error fault := found
      constructor
      · rintro ⟨profile, impossible⟩
        cases impossible
      · intro buildable
        obtain ⟨mode, impossible⟩ :=
          (Mode.ofText_exists_iff_readable _).mpr buildable.mode
        rw [read] at impossible
        cases impossible
  | ok mode =>
      have read : Mode.ofText request.modeSetting = .ok mode := found
      have settled : request.IsBuildable machine ↔
          (request.OpensSettings mode →
            machine.HasReadableSettings request.settingsPath) := by
        constructor
        · intro buildable
          exact buildable.settings mode read
        · intro readable
          refine ⟨(Mode.ofText_exists_iff_readable _).mp ⟨mode, read⟩, ?_⟩
          intro other same
          rw [read] at same
          cases same
          exact readable
      rw [settled, ← inspect_exists_iff]
      apply exists_ok_run_bind_iff
      · intro fault
        rfl
      · intro profile later
        exact ⟨profile, rfl⟩

end ProfileRequest

/-! ### Lookups -/

namespace ResolverState

theorem systemProfile_exists_iff (state : ResolverState) :
    (∃ built, (systemProfile.run state).1 = .ok built) ↔
      state.built.isSome = true ∨ state.machine.profileRequest.IsBuildable state.machine := by
  rw [← ProfileRequest.build_exists_iff_buildable]
  obtain ⟨machine, tables, built, builds⟩ := state
  cases built with
  | some found =>
      constructor
      · intro _
        exact Or.inl rfl
      · intro _
        exact ⟨found, rfl⟩
  | none =>
      unfold systemProfile onMachine
      simp only [StateT.run_bind, StateT.run_get, pure_bind]
      cases machine.profileRequest.build.run machine with
      | mk result later =>
          cases result with
          | error fault =>
              constructor
              · rintro ⟨built, impossible⟩
                cases impossible
              · rintro (impossible | ⟨profile, impossible⟩)
                · cases impossible
                · cases impossible
          | ok profile =>
              constructor
              · intro _
                exact Or.inr ⟨profile, rfl⟩
              · intro _
                exact ⟨_, rfl⟩

theorem systemRoute_exists_iff (host : Text) (options : Option LookupOptions)
    (state : ResolverState) :
    (∃ chosen, ((systemRoute host options).run state).1 = .ok chosen) ↔
      state.built.isSome = true ∨ state.machine.profileRequest.IsBuildable state.machine := by
  rw [← systemProfile_exists_iff]
  apply exists_ok_run_bind_iff
  · intro fault
    rfl
  · intro built later
    exact ⟨_, rfl⟩

end ResolverState

/-- Whether settings are read, a profile is built or a lookup is answered depends on the
numbers in the mode setting and in the options alone. -/
theorem failures_are_unreadable_numbers (machine : Machine) (path : String)
    (request : ProfileRequest) (state : ResolverState) (host : Text)
    (options : Option LookupOptions) :
    ((∃ settings, ((readSettings path).run machine).1 = .ok settings) ↔
      machine.HasReadableSettings path) ∧
    ((∃ profile, (request.build.run machine).1 = .ok profile) ↔
      request.IsBuildable machine) ∧
    ((∃ chosen, ((ResolverState.systemRoute host options).run state).1 = .ok chosen) ↔
      state.built.isSome = true ∨
        state.machine.profileRequest.IsBuildable state.machine) := by
  refine ⟨?_, ?_, ?_⟩
  · exact readSettings_exists_iff_readable machine path
  · exact request.build_exists_iff_buildable machine
  · exact state.systemRoute_exists_iff host options

/-! ### Numbers that cannot be read -/

/-- A superscript two is a digit and no decimal. -/
def superscriptTwo : Text := Text.ofString "\u00b2"

def superscriptSettings : FileNode :=
  .ofLines ["options ndots:\u00b2"]

def superscriptMachine : Machine :=
  (Machine.writeFile {} ResolverSettings.standardPath superscriptSettings).setVariable
    Mode.variableName (some superscriptTwo)

theorem superscript_stops_everything :
    ¬(∀ (path : String) (machine : Machine),
      ∃ settings, ((readSettings path).run machine).1 = .ok settings) ∧
    ¬(∀ (request : ProfileRequest) (machine : Machine),
      ∃ profile, (request.build.run machine).1 = .ok profile) ∧
    ¬∀ (host : Text) (options : Option LookupOptions) (state : ResolverState),
      ∃ chosen, ((ResolverState.systemRoute host options).run state).1 = .ok chosen := by
  refine ⟨?_, ?_, ?_⟩
  · intro returns
    obtain ⟨settings, impossible⟩ :=
      returns ResolverSettings.standardPath superscriptMachine
    have fails : ((readSettings ResolverSettings.standardPath).run superscriptMachine).1 =
        .error (.notANumber superscriptTwo) := rfl
    rw [fails] at impossible
    cases impossible
  · intro returns
    obtain ⟨profile, impossible⟩ :=
      returns superscriptMachine.profileRequest superscriptMachine
    have fails : (superscriptMachine.profileRequest.build.run superscriptMachine).1 =
        .error (.notANumber []) := rfl
    rw [fails] at impossible
    cases impossible
  · intro returns
    obtain ⟨chosen, impossible⟩ := returns [] none { machine := superscriptMachine }
    have fails : ((ResolverState.systemRoute [] none).run
        { machine := superscriptMachine }).1 = .error (.notANumber []) := rfl
    rw [fails] at impossible
    cases impossible

end ResolverChoice
