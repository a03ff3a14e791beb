/-
Reasons to leave every lookup to the C library.

`NativeReason` lists, in terms of the request, the variables and the files, what a built
profile has to give way to.  Each reason survives the building: a profile settles all
lookups by the fallback exactly where one of the reasons holds, and where none does every
plain name reaches the switch table.
-/

import ResolverChoice.Proofs.BuildCourse
import ResolverChoice.Proofs.FallbackRoute
import ResolverChoice.Proofs.SettingsContents

namespace ResolverChoice

/-! ### Profiles that settle all lookups -/

/-- No lookup under the profile is decided by more than the fallback. -/
def Profile.settlesAll (profile : Profile) : Bool :=
  !profile.family.usesCLibrary ||
    (profile.forcesNative || profile.settings.unknownOption || profile.family == .android)

theorem routeBeforeTable?_of_settlesAll {profile : Profile}
    (settles : profile.settlesAll = true) (fallback : Route) (host : Text) :
    routeBeforeTable? profile fallback host = some fallback := by
  unfold routeBeforeTable?
  rcases Bool.or_eq_true_iff.mp settles with system | refused
  · rw [if_pos system]
  · rw [if_pos refused, ite_self]

theorem consultsTable_of_not_settlesAll {profile : Profile} {host : Text}
    (undecided : profile.settlesAll = false) (notOpenbsd : profile.family ≠ .openbsd)
    (plain : HostName.hasEscape host = false)
    (notMulticast : HostName.isMulticast (HostName.withoutFinalDot host) = false) :
    ConsultsTable profile host := by
  simp only [Profile.settlesAll, Bool.or_eq_false_iff, Bool.not_eq_false', beq_eq_false_iff_ne]
    at undecided
  obtain ⟨library, ⟨unforced, understood⟩, notAndroid⟩ := undecided
  exact ⟨library, notAndroid, notOpenbsd, unforced, understood, plain, notMulticast⟩

/-- Such a lookup gives the fallback and touches neither the cache, the clock nor a file. -/
theorem ResolverState.run_route_of_settlesAll {profile : Profile}
    (settles : profile.settlesAll = true) (host : Text) (options : Option LookupOptions)
    (state : ResolverState) :
    (route profile host options).run state =
      (fallbackRoute profile options,
        state.told profile host (fallbackRoute profile options)) := by
  have settled : ¬ConsultsTable profile host := by
    rw [← routeBeforeTable?_eq_none_iff profile .native,
      routeBeforeTable?_of_settlesAll settles]
    exact Option.some_ne_none _
  rw [run_route, consulted_of_settled settled]
  unfold decideRoute
  rw [routeBeforeTable?_of_settlesAll settles]
  rfl

/-! ### Reasons -/

/-- The settings hold something that routing cannot know: they exist and cannot be read, or
say something that is not understood. -/
def Machine.HasUnknownSettings (machine : Machine) (path : String) : Prop :=
  match machine.fileAt path with
  | .error error => error.isMissing = false ∧ error.isForbidden = false
  | .ok node => (SettingsContents.ofText (Text.ofFile node.bytes)).HasUnknown

namespace Mode

def builtinWords : List Text :=
  ["builtin", "go"].map Text.ofString

def nativeWords : List Text :=
  ["native", "cgo"].map Text.ofString

theorem wantsBuiltin_iff (mode : Mode) :
    mode.wantsBuiltin = true ↔ mode.word ∈ builtinWords := by
  simp only [wantsBuiltin, builtinWords, Bool.or_eq_true, beq_iff_eq, List.map_cons,
    List.map_nil, List.mem_cons, List.not_mem_nil, or_false]

theorem wantsNative_iff (mode : Mode) :
    mode.wantsNative = true ↔ mode.word ∈ nativeWords := by
  simp only [wantsNative, nativeWords, Bool.or_eq_true, beq_iff_eq, List.map_cons,
    List.map_nil, List.mem_cons, List.not_mem_nil, or_false]

end Mode

namespace ProfileRequest

/-- Families whose native resolver is used whatever files and variables say. -/
def nativeFamilies : List Family :=
  [.windows, .plan9, .darwin, .ios, .android]

/-- Why the native resolver is needed, whatever the host. -/
inductive NativeReason (request : ProfileRequest) (mode : Mode) (machine : Machine) : Prop where
  | family (listed : request.family ∈ nativeFamilies)
  | requested (native : request.wantsNative = true)
  | mode (listed : mode.word ∈ Mode.nativeWords)
  /-- An empty variable counts too. -/
  | environment {name : String} (listed : name ∈ ["RES_OPTIONS", "HOSTALIASES", "LOCALDOMAIN"])
      (set : (request.environment name).isSome = true)
  | otherSettings {value : Text} (openbsd : request.family = .openbsd)
      (set : request.environment "ASR_CONFIG" = some value) (nonempty : value ≠ [])
  | settings (unknown : machine.HasUnknownSettings request.settingsPath)

variable {request : ProfileRequest} {mode : Mode} {machine : Machine} {profile : Profile}

theorem changesResolver_iff :
    request.changesResolver = true ↔
      ∃ name ∈ ["RES_OPTIONS", "HOSTALIASES", "LOCALDOMAIN"],
        (request.environment name).isSome = true :=
  List.any_eq_true

theorem replacesSettings_iff :
    request.replacesSettings = true ↔
      request.family = .openbsd ∧
        ∃ value, request.environment "ASR_CONFIG" = some value ∧ value ≠ [] := by
  unfold replacesSettings
  rw [Bool.and_eq_true, beq_iff_eq, Option.any_eq_true]
  simp only [Bool.not_eq_true', List.isEmpty_eq_false_iff, and_comm]

theorem mem_nativeFamilies_iff (family : Family) :
    family ∈ nativeFamilies ↔
      family.usesCLibrary = false ∨ family.isApple = true ∨ family = .android := by
  cases family <;> decide

/-- Whatever forces the native resolver before the settings are opened is a reason. -/
theorem NativeReason.of_forcesNative
    (forces : request.forcesNative (request.start mode) = true) :
    request.NativeReason mode machine := by
  simp only [forcesNative, start, Bool.or_eq_true] at forces
  rcases forces with ((apple | requested | set) | changes) | replaces
  · exact .family ((mem_nativeFamilies_iff _).mpr (Or.inr (Or.inl apple)))
  · exact .requested requested
  · exact .mode ((Mode.wantsNative_iff mode).mp set)
  · obtain ⟨name, listed, set⟩ := changesResolver_iff.mp changes
    exact .environment listed set
  · obtain ⟨openbsd, value, set, nonempty⟩ := replacesSettings_iff.mp replaces
    exact .otherSettings openbsd set nonempty

/-- Where the settings are opened, the family and the file are the only reasons left. -/
theorem nativeReason_iff_of_opens (opens : request.OpensSettings mode) :
    request.NativeReason mode machine ↔
      machine.HasUnknownSettings request.settingsPath ∨ request.family = .android := by
  constructor
  · intro reason
    cases reason with
    | family listed =>
        rcases (mem_nativeFamilies_iff _).mp listed with system | apple | android
        · exact absurd opens.usesCLibrary (Bool.eq_false_iff.mp system)
        · exact absurd apple (Bool.eq_false_iff.mp opens.notApple)
        · exact Or.inr android
    | requested native => exact absurd native (Bool.eq_false_iff.mp opens.nativeNotRequested)
    | mode listed =>
        have native := (Mode.wantsNative_iff mode).mpr listed
        exact absurd native (Bool.eq_false_iff.mp opens.nativeNotSet)
    | environment listed set =>
        have changes := changesResolver_iff.mpr ⟨_, listed, set⟩
        exact absurd changes (Bool.eq_false_iff.mp opens.keepsResolver)
    | otherSettings openbsd set nonempty =>
        have replaces := replacesSettings_iff.mpr ⟨openbsd, _, set, nonempty⟩
        exact absurd replaces (Bool.eq_false_iff.mp opens.keepsSettings)
    | settings unknown => exact Or.inl unknown
  · rintro (unknown | android)
    · exact .settings unknown
    · exact .family ((mem_nativeFamilies_iff _).mpr (Or.inr (Or.inr android)))

/-- The two marks that reading leaves on the settings tell whether the file has anything
unknown. -/
theorem hasUnknownSettings_iff_of_read {path : String} {settings : ResolverSettings}
    (read : ((readSettings path).run machine).1 = .ok settings) :
    (settings.hidesContent || settings.unknownOption) = true ↔
      machine.HasUnknownSettings path := by
  rw [fst_run_readSettings] at read
  unfold Machine.HasUnknownSettings
  cases file : machine.fileAt path with
  | error error =>
      rw [file] at read
      cases read
      simp only [ResolverSettings.hidesContent, ResolverSettings.unreadable, Option.any_some,
        ResolverSettings.standard, Bool.or_false, Bool.not_or, Bool.and_eq_true,
        Bool.not_eq_true']
  | ok node =>
      rw [file] at read
      have readable := (ResolverSettings.ofText_exists_iff_readable _).mp ⟨settings, read⟩
      have given := ResolverSettings.ofText_of_readable readable
      cases read.symm.trans given
      exact decide_eq_true_iff

theorem Builds.settlesAll_iff (builds : request.Builds mode machine profile) :
    profile.settlesAll = true ↔ request.NativeReason mode machine := by
  cases builds with
  | systemResolver system =>
      refine iff_of_true ?_ (.family ((mem_nativeFamilies_iff _).mpr (Or.inl system)))
      exact Bool.or_eq_true_iff.mpr (Or.inl ((Bool.not_eq_true' _).mpr system))
  | forced library forces =>
      refine iff_of_true ?_ (.of_forcesNative forces)
      exact Bool.or_eq_true_iff.mpr (Or.inr rfl)
  | @settings settings opens read =>
      rw [nativeReason_iff_of_opens opens, ← hasUnknownSettings_iff_of_read read]
      change (!request.family.usesCLibrary || _) = true ↔ _
      rw [opens.usesCLibrary, Bool.not_true, Bool.false_or, Bool.or_eq_true_iff, beq_iff_eq]
      rfl

end ProfileRequest

/-! ### Lookups -/

section

open ResolverState

/-- Under a profile that nothing asks to be built-in, a reason makes every lookup native
without a look at the table, the clock or a file.  Where there is no reason, every plain
name reaches the table, except on OpenBSD, which has its order in the settings. -/
theorem native_reasons_settle_lookups {request : ProfileRequest} {mode : Mode}
    {machine : Machine} {profile : Profile}
    (built : (request.build.run machine).1 = .ok profile)
    (read : Mode.ofText request.modeSetting = .ok mode)
    (noBuiltin : request.wantsBuiltin = false) (noBuiltinMode : mode.word ∉ Mode.builtinWords) :
    (request.NativeReason mode machine →
      ∀ host options state, asksForBuiltin options = false →
        (route profile host options).run state =
          (.native, state.told profile host .native)) ∧
    (¬request.NativeReason mode machine → request.family ≠ .openbsd →
      ∀ host, HostName.hasEscape host = false →
        HostName.isMulticast (HostName.withoutFinalDot host) = false →
          ConsultsTable profile host) := by
  obtain ⟨other, same, builds⟩ := ProfileRequest.builds_of_build built
  obtain rfl : other = mode := Except.ok.inj (same.symm.trans read)
  rw [← builds.settlesAll_iff]
  constructor
  · intro settles host options state unasked
    have plain : profile.wantsBuiltin = false := by
      rw [← Mode.wantsBuiltin_iff, Bool.not_eq_true] at noBuiltinMode
      rw [builds.wantsBuiltin, noBuiltin, noBuiltinMode]
      rfl
    rw [run_route_of_settlesAll settles, fallbackRoute_of_unasked plain unasked]
  · intro unsettled notOpenbsd host noEscape notMulticast
    rw [← builds.family] at notOpenbsd
    exact consultsTable_of_not_settlesAll (Bool.eq_false_iff.mpr unsettled) notOpenbsd
      noEscape notMulticast

/-- An option that some resolvers know. -/
def inet6Settings : FileNode :=
  .ofLines ["options inet6"]

def inet6Machine : Machine :=
  Machine.writeFile {} ResolverSettings.standardPath inet6Settings

theorem unknown_option_settles_lookups :
    ∃ profile, (inet6Machine.profileRequest.build.run inet6Machine).1 = .ok profile ∧
      ∀ host state, (route profile host none).run state =
        (.native, state.told profile host .native) := by
  have reason : inet6Machine.profileRequest.NativeReason {} inet6Machine := by
    refine .settings ?_
    change SettingsContents.HasUnknown _
    decide +kernel
  refine ⟨_, rfl, ?_⟩
  intro host state
  exact (native_reasons_settle_lookups rfl rfl rfl (by decide)).1 reason host none state rfl

end

end ResolverChoice
