/-
The order that the settings give on OpenBSD.

OpenBSD has no switch table.  The last lookup line of its settings decides every lookup, and
what the file does not say stands for the platform's own order.  Nothing in a plain name
matters, so all such hosts have one route, and the cache is left alone.
-/

import ResolverChoice.Proofs.NativeReason

namespace ResolverChoice

/-! ### Orders -/

/-- The route for an order as a whole.  No order at all stands for the platform's own. -/
def routeOfOrder (order : List Text) (fallback : Route) : Route :=
  if order = [] then .dnsThenFiles
  else if order = ["bind"].map Text.ofString then .dns
  else if order = ["file"].map Text.ofString then .files
  else if order = ["bind", "file"].map Text.ofString then .dnsThenFiles
  else if order = ["file", "bind"].map Text.ofString then .filesThenDns
  else fallback

theorem routeOfSettings_eq_routeOfOrder {settings : ResolverSettings}
    (known : settings.isMissing = false) (fallback : Route) :
    routeOfSettings settings fallback = routeOfOrder settings.lookup fallback := by
  unfold routeOfSettings
  rw [known, if_neg Bool.false_ne_true]
  generalize settings.lookup = order
  by_cases platform : order = []
  · rw [platform]
    rfl
  by_cases listed : order ∈ lookupLines.map (fun line => line.1.map Text.ofString)
  · simp only [lookupLines, List.map_cons, List.map_nil, List.mem_cons, List.not_mem_nil,
      or_false] at listed
    rcases listed with rfl | rfl | rfl | rfl
    · rfl
    · rfl
    · rfl
    · rfl
  · have unlisted : lookupLines.find? (fun line => line.1.map Text.ofString == order) = none := by
      rw [List.find?_eq_none]
      intro line member same
      exact listed (List.mem_map.mpr ⟨line, member, eq_of_beq same⟩)
    rw [unlisted, if_neg (mt List.isEmpty_iff.mp platform)]
    simp only [lookupLines, List.map_cons, List.map_nil, List.mem_cons, List.not_mem_nil,
      or_false, not_or] at listed
    obtain ⟨bind, bindFirst, file, fileFirst⟩ := listed
    unfold routeOfOrder
    simp only [List.map_cons, List.map_nil, platform, bind, file, bindFirst, fileFirst, if_false]

/-- The route for every plain name, by what is at the path. -/
def Machine.orderedRoute (machine : Machine) (path : String) (fallback : Route) : Route :=
  match machine.fileAt path with
  | .error error => if error.isMissing then .files else .dnsThenFiles
  | .ok node =>
      let contents := SettingsContents.ofText (Text.ofFile node.bytes)
      routeOfOrder (contents.orders.getLast?.getD []) fallback

theorem routeOfSettings_of_read {machine : Machine} {path : String}
    {settings : ResolverSettings} (read : ((readSettings path).run machine).1 = .ok settings)
    (fallback : Route) :
    routeOfSettings settings fallback = machine.orderedRoute path fallback := by
  rw [fst_run_readSettings] at read
  unfold Machine.orderedRoute
  cases file : machine.fileAt path with
  | error error =>
      rw [file] at read
      cases read
      rfl
  | ok node =>
      rw [file] at read
      have readable := (ResolverSettings.ofText_exists_iff_readable _).mp ⟨settings, read⟩
      cases read.symm.trans (ResolverSettings.ofText_of_readable readable)
      exact routeOfSettings_eq_routeOfOrder rfl fallback

/-! ### Lookups -/

theorem ProfileRequest.Builds.read_of_unforced {request : ProfileRequest} {mode : Mode}
    {machine : Machine} {profile : Profile} (builds : request.Builds mode machine profile)
    (unforced : ¬request.NativeReason mode machine) :
    ((readSettings request.settingsPath).run machine).1 = .ok profile.settings := by
  cases builds with
  | systemResolver system =>
      exact absurd (.family ((mem_nativeFamilies_iff _).mpr (Or.inl system))) unforced
  | forced library forces => exact absurd (.of_forcesNative forces) unforced
  | settings opens read => exact read

theorem routeBeforeTable?_of_openbsd {profile : Profile} {host : Text}
    (openbsd : profile.family = .openbsd) (undecided : profile.settlesAll = false)
    (plain : HostName.hasEscape host = false) (fallback : Route) :
    routeBeforeTable? profile fallback host =
      some (routeOfSettings profile.settings fallback) := by
  obtain ⟨library, refused⟩ := Bool.or_eq_false_iff.mp undecided
  unfold routeBeforeTable?
  rw [library, refused, plain, openbsd]
  rfl

section

open ResolverState

/-- On OpenBSD, where nothing else makes the native resolver necessary and the settings can be
read, a profile is built under which every plain name has the route of the last order.  The
lookup touches neither the cache, the clock nor a file. -/
theorem openbsd_follows_last_order {request : ProfileRequest} {mode : Mode}
    {machine : Machine} (openbsd : request.family = .openbsd)
    (read : Mode.ofText request.modeSetting = .ok mode)
    (unforced : ¬request.NativeReason mode machine)
    (readable : machine.HasReadableSettings request.settingsPath) :
    ∃ profile, (request.build.run machine).1 = .ok profile ∧
      ∀ host options state, HostName.hasEscape host = false →
        (route profile host options).run state =
          (machine.orderedRoute request.settingsPath (fallbackRoute profile options),
            state.told profile host
              (machine.orderedRoute request.settingsPath (fallbackRoute profile options))) := by
  have buildable : request.IsBuildable machine := by
    refine ⟨(Mode.ofText_exists_iff_readable _).mp ⟨mode, read⟩, ?_⟩
    intro _ _ _
    exact readable
  obtain ⟨profile, built⟩ := (request.build_exists_iff_buildable machine).mpr buildable
  refine ⟨profile, built, ?_⟩
  intro host options state plain
  obtain ⟨other, same, builds⟩ := ProfileRequest.builds_of_build built
  obtain rfl : other = mode := Except.ok.inj (same.symm.trans read)
  have family : profile.family = .openbsd := builds.family.trans openbsd
  have undecided : profile.settlesAll = false := by
    rw [← Bool.not_eq_true, builds.settlesAll_iff]
    exact unforced
  have settled : ¬ConsultsTable profile host := fun consults => consults.notOpenbsd family
  rw [run_route, consulted_of_settled settled]
  unfold decideRoute
  rw [routeBeforeTable?_of_openbsd family undecided plain,
    routeOfSettings_of_read (builds.read_of_unforced unforced)]
  rfl

def orderedSettings : FileNode :=
  .ofLines ["lookup bind", "lookup file bind"]

def orderedMachine : Machine :=
  Machine.writeFile {} ResolverSettings.standardPath orderedSettings

theorem openbsd_passes_over_first_order :
    ∃ profile, (ProfileRequest.onOpenbsd.build.run orderedMachine).1 = .ok profile ∧
      ∀ host state, HostName.hasEscape host = false →
        (route profile host none).run state =
          (.filesThenDns, state.told profile host .filesThenDns) := by
  have unforced : ¬ProfileRequest.onOpenbsd.NativeReason {} orderedMachine := by
    rw [ProfileRequest.nativeReason_iff_of_opens ⟨rfl, rfl, rfl, rfl, rfl, rfl⟩]
    rintro (unknown | android)
    · change SettingsContents.HasUnknown _ at unknown
      revert unknown
      decide +kernel
    · cases android
  have readable : orderedMachine.HasReadableSettings ProfileRequest.onOpenbsd.settingsPath := by
    intro node file word listed
    cases file
    have noOptions : ResolverSettings.optionWords (Text.ofFile orderedSettings.bytes) = [] := by
      decide +kernel
    rw [noOptions] at listed
    cases listed
  obtain ⟨profile, built, routes⟩ := openbsd_follows_last_order rfl rfl unforced readable
  have ordered : orderedMachine.orderedRoute ProfileRequest.onOpenbsd.settingsPath
      (fallbackRoute profile none) = .filesThenDns := by
    generalize fallbackRoute profile none = fallback
    cases fallback <;> decide +kernel
  refine ⟨profile, built, ?_⟩
  intro host state plain
  have routed := routes host none state plain
  rw [ordered] at routed
  exact routed

end

end ResolverChoice
