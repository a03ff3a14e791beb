/-
Routes that the sources for hosts decide.

A list of sources either leaves a doubt, and then the fallback is the route, or asks
for the kinds that it lists.  `LeavesDoubt` has one case for every reason to doubt and
looks at no order among the sources; `Route.ofListed` looks at their order only to see
which kind is listed first.  A route that is found asks its kinds with the same outcome
as the sources.
-/

import ResolverChoice.Proofs.SourceOutcome
import ResolverChoice.Proofs.SourceWalk
import ResolverChoice.Proofs.TableLookup

namespace ResolverChoice

/-! ### Doubts -/

/-- The machine may answer for the host itself: the host is one of the fixed names or
the machine's own, or the machine cannot tell its name. -/
def MayAnswerItself (host : Text) (hostName : Except RecordedError Text) : Prop :=
  HostName.isLoopback host = true ∨ HostName.isGatewayName host = true ∨
    HostName.isOutboundName host = true ∨
      match hostName with
      | .error _ => True
      | .ok name => name = [] ∨ Text.foldAscii host = Text.foldAscii name

/-- A reason for which what the C library would do cannot be told. -/
inductive LeavesDoubt (allowsMulticast : Bool) (host : Text)
    (hostName : Except RecordedError Text) (sources : List Source) : Prop where
  | unknownKind {source : Source} (listed : source ∈ sources) (kind : source.kind = .other)
  | changedCriteria {source : Source} (listed : source ∈ sources)
      (kind : source.kind = .files ∨ source.kind = .dns)
      (changed : source.hasNeutralCriteria = false)
  | ownName {source : Source} (listed : source ∈ sources)
      (kind : source.kind = .myhostname) (own : MayAnswerItself host hostName)
  | multicast {source : Source} (listed : source ∈ sources)
      (kind : source.kind = .mdns) (allowed : allowsMulticast = true)
  | nothingToAsk (absent : ∀ source ∈ sources, source.kind ≠ .files ∧ source.kind ≠ .dns)

theorem mayBeOwnName_iff (host : Text) (machine : Machine) :
    mayBeOwnName host machine.ownHostName = true ↔
      MayAnswerItself host machine.hostName := by
  unfold mayBeOwnName MayAnswerItself Machine.ownHostName
  cases machine.hostName with
  | error error => simp only [Bool.or_true, or_true]
  | ok name =>
      cases name with
      | nil => simp only [Bool.or_true, true_or, or_true]
      | cons symbol rest =>
          simp only [HostName.agree, Bool.or_eq_true, beq_iff_eq, reduceCtorEq, false_or,
            or_assoc]

theorem stopsWalk_iff (ownName : Bool) (source : Source) :
    source.stopsWalk ownName = true ↔
      source.kind = .other ∨
        ((source.kind = .files ∨ source.kind = .dns) ∧ source.hasNeutralCriteria = false) ∨
        (source.kind = .myhostname ∧ ownName = true) := by
  unfold Source.stopsWalk
  cases source.kind <;> simp

/-! ### The kinds that a list asks for -/

/-- A kind that is not listed is not asked, and the one listed first is asked first. -/
def Route.ofListed (kinds : List SourceKind) : Route :=
  if .files ∈ kinds then
    if .dns ∈ kinds then
      if kinds.find? SourceKind.looksUp = some .files then .filesThenDns else .dnsThenFiles
    else .files
  else .dns

theorem mem_iff_find?_eq_some {kind : SourceKind} {kinds : List SourceKind} :
    kind ∈ kinds ↔ kinds.find? (· == kind) = some kind := by
  constructor
  · intro member
    cases search : kinds.find? (· == kind) with
    | none => exact absurd (beq_self_eq_true kind) (List.find?_eq_none.mp search kind member)
    | some found =>
        have accepted := List.find?_some search
        change (found == kind) = true at accepted
        rw [eq_of_beq accepted]
  · exact List.mem_of_find?_eq_some

theorem Route.ofListed_congr {kinds others : List SourceKind}
    (same : ∀ accepts : SourceKind → Bool,
      (∀ kind, kind.looksUp = false → accepts kind = false) →
        kinds.find? accepts = others.find? accepts) :
    Route.ofListed kinds = Route.ofListed others := by
  have files : .files ∈ kinds ↔ .files ∈ others := by
    rw [mem_iff_find?_eq_some, mem_iff_find?_eq_some,
      same (· == .files) (by intro kind; cases kind <;> decide)]
  have dns : .dns ∈ kinds ↔ .dns ∈ others := by
    rw [mem_iff_find?_eq_some, mem_iff_find?_eq_some,
      same (· == .dns) (by intro kind; cases kind <;> decide)]
  have first := same SourceKind.looksUp (fun _ ignored => ignored)
  simp only [Route.ofListed, files, dns, first]

theorem ofKinds?_of_mem_arrangements {kinds : List SourceKind}
    (arranged : kinds ∈ Tally.arrangements) :
    Route.ofKinds? kinds = if kinds = [] then none else some (Route.ofListed kinds) := by
  simp only [Tally.arrangements, List.mem_cons, List.not_mem_nil, or_false] at arranged
  rcases arranged with rfl | rfl | rfl | rfl | rfl <;> decide

/-! ### The walk as a whole -/

section

variable {allowsMulticast : Bool} {host : Text} {machine : Machine} {sources : List Source}

/-- The tally after all sources, where none of them stops the walk. -/
def tallyOf (sources : List Source) : Tally :=
  sources.foldl Tally.note {}

theorem find?_kinds_tallyOf {accepts : SourceKind → Bool}
    (relevant : ∀ source ∈ sources,
      source.kind.looksUp = false → accepts source.kind = false) :
    (tallyOf sources).kinds.find? accepts = (sources.map Source.kind).find? accepts :=
  Tally.find?_kinds_foldl_note relevant {}

theorem kinds_tallyOf_eq_nil_iff :
    (tallyOf sources).kinds = [] ↔
      ∀ source ∈ sources, source.kind ≠ .files ∧ source.kind ≠ .dns := by
  have arranged : (tallyOf sources).kinds ∈ Tally.arrangements :=
    Tally.kinds_foldl_note_mem_arrangements sources List.mem_cons_self
  have searched : (tallyOf sources).kinds.find? SourceKind.looksUp =
      (sources.map Source.kind).find? SourceKind.looksUp :=
    find?_kinds_tallyOf (fun _ _ ignored => ignored)
  have empty : (tallyOf sources).kinds = [] ↔
      (tallyOf sources).kinds.find? SourceKind.looksUp = none := by
    simp only [Tally.arrangements, List.mem_cons, List.not_mem_nil, or_false] at arranged
    rcases arranged with kinds | kinds | kinds | kinds | kinds <;> rw [kinds] <;> decide
  rw [empty, searched, List.find?_eq_none]
  simp only [List.mem_map, forall_exists_index, and_imp, forall_apply_eq_imp_iff₂,
    SourceKind.looksUp, Bool.or_eq_true, beq_iff_eq, not_or, ne_eq]

theorem routeOfSources?_eq (ownName : Except HostNameError Text) :
    routeOfSources? allowsMulticast host ownName sources =
      if sources.any (Source.stopsWalk (mayBeOwnName host ownName)) then none
      else (tallyOf sources).route? allowsMulticast := by
  unfold routeOfSources? Tally.ofSources?
  rw [Tally.foldlM_add?]
  split <;> rfl

theorem route?_tallyOf :
    (tallyOf sources).route? allowsMulticast =
      if ((tallyOf sources).multicast && allowsMulticast) = true ∨
          (tallyOf sources).kinds = [] then none
      else some (Route.ofListed (sources.map Source.kind)) := by
  have arranged : (tallyOf sources).kinds ∈ Tally.arrangements :=
    Tally.kinds_foldl_note_mem_arrangements sources List.mem_cons_self
  have ordered : Route.ofListed (tallyOf sources).kinds =
      Route.ofListed (sources.map Source.kind) :=
    Route.ofListed_congr (fun accepts relevant =>
      find?_kinds_tallyOf (fun source _ => relevant source.kind))
  unfold Tally.route?
  rw [ofKinds?_of_mem_arrangements arranged, ordered]
  by_cases refused : ((tallyOf sources).multicast && allowsMulticast) = true
  · rw [if_pos refused, if_pos (Or.inl refused)]
  · rw [if_neg refused]
    by_cases empty : (tallyOf sources).kinds = []
    · rw [if_pos empty, if_pos (Or.inr empty)]
    · rw [if_neg empty, if_neg (not_or.mpr ⟨refused, empty⟩)]

/-- The walk, the multicast test and the final choice refuse exactly the lists that
leave a doubt. -/
theorem leavesDoubt_iff :
    LeavesDoubt allowsMulticast host machine.hostName sources ↔
      sources.any (Source.stopsWalk (mayBeOwnName host machine.ownHostName)) = true ∨
        ((tallyOf sources).multicast && allowsMulticast) = true ∨
          (tallyOf sources).kinds = [] := by
  have multicast : (tallyOf sources).multicast =
      sources.any (fun source => source.kind == .mdns) :=
    Tally.multicast_foldl_note sources {}
  rw [kinds_tallyOf_eq_nil_iff, multicast, Bool.and_eq_true, List.any_eq_true,
    List.any_eq_true]
  -- The first three reasons stop the walk; the last two are seen only after it.
  simp only [stopsWalk_iff, mayBeOwnName_iff, beq_iff_eq]
  constructor
  · intro doubt
    cases doubt with
    | unknownKind listed kind => exact Or.inl ⟨_, listed, Or.inl kind⟩
    | changedCriteria listed kind changed =>
        exact Or.inl ⟨_, listed, Or.inr (Or.inl ⟨kind, changed⟩)⟩
    | ownName listed kind own => exact Or.inl ⟨_, listed, Or.inr (Or.inr ⟨kind, own⟩)⟩
    | multicast listed kind allowed => exact Or.inr (Or.inl ⟨⟨_, listed, kind⟩, allowed⟩)
    | nothingToAsk absent => exact Or.inr (Or.inr absent)
  · rintro (⟨source, listed, stops⟩ | ⟨⟨source, listed, kind⟩, allowed⟩ | absent)
    · rcases stops with kind | ⟨kind, changed⟩ | ⟨kind, own⟩
      · exact .unknownKind listed kind
      · exact .changedCriteria listed kind changed
      · exact .ownName listed kind own
    · exact .multicast listed kind allowed
    · exact .nothingToAsk absent

instance (allowsMulticast : Bool) (host : Text) (hostName : Except RecordedError Text)
    (sources : List Source) : Decidable (LeavesDoubt allowsMulticast host hostName sources) :=
  decidable_of_iff _ (@leavesDoubt_iff allowsMulticast host { hostName := hostName } sources).symm

theorem routeOfSources?_eq_none_of_doubt
    (doubt : LeavesDoubt allowsMulticast host machine.hostName sources) :
    routeOfSources? allowsMulticast host machine.ownHostName sources = none := by
  rw [routeOfSources?_eq, route?_tallyOf]
  rcases leavesDoubt_iff.mp doubt with stops | refused
  · rw [if_pos stops]
  · rw [if_pos refused]
    split <;> rfl

theorem routeOfSources?_eq_some_of_no_doubt
    (certain : ¬LeavesDoubt allowsMulticast host machine.hostName sources) :
    routeOfSources? allowsMulticast host machine.ownHostName sources =
      some (Route.ofListed (sources.map Source.kind)) := by
  rw [leavesDoubt_iff, not_or] at certain
  rw [routeOfSources?_eq, route?_tallyOf, if_neg certain.1, if_neg certain.2]

/-! ### The meaning of a route -/

theorem kinds?_of_routeOfSources? {ownName : Except HostNameError Text} {route : Route}
    (found : routeOfSources? allowsMulticast host ownName sources = some route) :
    route.kinds? = some (tallyOf sources).kinds ∧
      ∀ source ∈ sources, source.stopsWalk (mayBeOwnName host ownName) = false := by
  rw [routeOfSources?_eq] at found
  split at found
  · cases found
  · rename_i walked
    rw [Bool.not_eq_true, List.any_eq_false] at walked
    unfold Tally.route? at found
    split at found
    · cases found
    · exact ⟨Route.kinds?_of_ofKinds? found,
        fun source listed => Bool.eq_false_iff.mpr (walked source listed)⟩

/-- Asking the noted kinds ends like asking the sources without their criteria, if only
files and name servers can find the name. -/
theorem answering?_eq_find?_kinds_tallyOf {statusOf : SourceKind → Status}
    (relevant : ∀ source ∈ sources,
      source.kind.looksUp = false → finds statusOf source.kind = false) :
    Source.answering? statusOf (sources.map Source.withoutCriteria) =
      (tallyOf sources).kinds.find? (finds statusOf) := by
  rw [Source.answering?_map_withoutCriteria, find?_kinds_tallyOf relevant]

theorem finds_eq_false_of_walked {ownName : Bool} {statusOf : SourceKind → Status}
    {source : Source} (passed : source.stopsWalk ownName = false)
    (multicast : statusOf .mdns ≠ .success) (own : statusOf .myhostname ≠ .success)
    (ignored : source.kind.looksUp = false) : finds statusOf source.kind = false := by
  rw [finds_eq_false_iff]
  cases kind : source.kind with
  | files => rw [kind] at ignored; cases ignored
  | dns => rw [kind] at ignored; cases ignored
  | mdns => exact multicast
  | myhostname => exact own
  | other => simp only [Source.stopsWalk, kind, reduceCtorEq] at passed

end

/-! ### The fallback -/

/-- What the built-in resolver does where nothing is known. -/
def Family.builtinRoute (family : Family) : Route :=
  if family = .windows then .dns else .filesThenDns

theorem fallbackRoute_of_unasked {profile : Profile} {options : Option LookupOptions}
    (noBuiltin : profile.wantsBuiltin = false) (unasked : asksForBuiltin options = false) :
    fallbackRoute profile options = .native := by
  unfold fallbackRoute
  rw [noBuiltin, unasked]
  rfl

theorem fallbackRoute_of_asked {profile : Profile} {options : Option LookupOptions}
    (asked : (profile.wantsBuiltin || asksForBuiltin options) = true) :
    fallbackRoute profile options = profile.family.builtinRoute := by
  unfold fallbackRoute
  rw [if_pos asked]
  rfl

/-- A caller without options does not ask for the built-in resolver. -/
theorem asksForBuiltin_iff (options : Option LookupOptions) :
    asksForBuiltin options = true ↔ options = some { builtin := true } := by
  match options with
  | none => decide
  | some { builtin := false } => decide
  | some { builtin := true } => decide

theorem fallbackRoute_eq (profile : Profile) (options : Option LookupOptions) :
    fallbackRoute profile options =
      if profile.wantsBuiltin = true ∨ options = some { builtin := true } then
        profile.family.builtinRoute
      else .native := by
  simp only [fallbackRoute, Family.builtinRoute, Bool.or_eq_true, asksForBuiltin_iff]

/-! ### Lookups -/

section

open ResolverState

variable {profile : Profile} {host : Text} {options : Option LookupOptions}
  {state : ResolverState} {sources : List Source}

theorem fst_run_route_of_sources (consults : ConsultsTable profile host)
    (intact : (systemTable.run state).1.error = none)
    (listed : (systemTable.run state).1.sources hostsDatabase = sources)
    (nonempty : sources ≠ []) :
    ((route profile host options).run state).1 =
      (routeOfSources? profile.allowsMulticast (HostName.withoutFinalDot host)
        state.machine.ownHostName sources).getD (fallbackRoute profile options) := by
  subst listed
  rw [fst_run_route, fst_run_routeUnder profile host options state consults,
    routeByTable_of_sources intact nonempty]

/-- The route of a lookup that reaches the sources.  Any reason to doubt, wherever in the
list it stands, gives the native route, or what the built-in resolver does where that is asked
for; otherwise the listed kinds give the route. -/
theorem route_of_listed_sources (consults : ConsultsTable profile host)
    (intact : (systemTable.run state).1.error = none)
    (listed : (systemTable.run state).1.sources hostsDatabase = sources)
    (nonempty : sources ≠ []) :
    (LeavesDoubt profile.allowsMulticast (HostName.withoutFinalDot host)
        state.machine.hostName sources →
      ((route profile host options).run state).1 =
        if profile.wantsBuiltin = true ∨ options = some { builtin := true } then
          profile.family.builtinRoute
        else .native) ∧
    (¬LeavesDoubt profile.allowsMulticast (HostName.withoutFinalDot host)
        state.machine.hostName sources →
      ((route profile host options).run state).1 =
        Route.ofListed (sources.map Source.kind)) := by
  rw [fst_run_route_of_sources consults intact listed nonempty]
  constructor
  · intro doubt
    rw [routeOfSources?_eq_none_of_doubt doubt, Option.getD_none]
    exact fallbackRoute_eq profile options
  · intro certain
    rw [routeOfSources?_eq_some_of_no_doubt certain]
    rfl

/-- A skipped kind, a repeated one and criteria that change nothing. -/
def mixedSources : List Source :=
  [.ofName (Text.ofString "mdns4_minimal") [], .ofName (Text.ofString "dns") [],
    .ofName (Text.ofString "files") [⟨false, Status.success.word, Action.stop.word⟩],
    .ofName (Text.ofString "myhostname") [], .ofName (Text.ofString "dns") []]

theorem consultsTable_standard : ConsultsTable {} (Text.ofString "example.com.") :=
  ⟨rfl, by decide, by decide, rfl, rfl, by decide, by decide⟩

/-- The machine may answer for the second name itself. -/
theorem route_of_mixed_sources :
    ((route {} (Text.ofString "example.com.") none).run
        (serving {} (.ofHosts mixedSources))).1 = .dnsThenFiles ∧
      ((route {} (Text.ofString "localhost") none).run
        (serving {} (.ofHosts mixedSources))).1 = .native ∧
      ((route {} (Text.ofString "localhost") (some { builtin := true })).run
        (serving {} (.ofHosts mixedSources))).1 = .filesThenDns ∧
      ((route { wantsBuiltin := true } (Text.ofString "localhost") none).run
        (serving {} (.ofHosts mixedSources))).1 = .filesThenDns := by
  obtain ⟨intact, listed⟩ := sources_serving {} rfl mixedSources
  have nonempty : mixedSources ≠ [] := List.cons_ne_nil _ _
  have certain : ¬LeavesDoubt false (HostName.withoutFinalDot (Text.ofString "example.com."))
      (.ok (Text.ofString "myhostname")) mixedSources := by decide
  have doubt : LeavesDoubt false (HostName.withoutFinalDot (Text.ofString "localhost"))
      (.ok (Text.ofString "myhostname")) mixedSources := by decide
  have consults (wantsBuiltin : Bool) :
      ConsultsTable { wantsBuiltin := wantsBuiltin } (Text.ofString "localhost") :=
    ⟨rfl, nofun, nofun, rfl, rfl, by decide, by decide⟩
  refine ⟨?_, ?_, ?_, ?_⟩
  · exact (route_of_listed_sources consultsTable_standard intact listed nonempty).2 certain
  · exact (route_of_listed_sources (consults false) intact listed nonempty).1 doubt
  · exact (route_of_listed_sources (consults false) intact listed nonempty).1 doubt
  · exact (route_of_listed_sources (consults true) intact listed nonempty).1 doubt

/-- Where nothing asks for the built-in resolver, a route other than the native one has
the meaning of the sources: whichever kinds find the name, asking the kinds of the route
in its order ends with the same kind answering, or nobody. -/
theorem route_answers_like_sources (noBuiltin : profile.wantsBuiltin = false)
    (unasked : asksForBuiltin options = false) (consults : ConsultsTable profile host)
    (intact : (systemTable.run state).1.error = none)
    (listed : (systemTable.run state).1.sources hostsDatabase = sources)
    (nonempty : sources ≠ [])
    (answered : ((route profile host options).run state).1 ≠ .native) :
    ∃ kinds, ((route profile host options).run state).1.kinds? = some kinds ∧
      ∀ statusOf : SourceKind → Status,
        statusOf .mdns ≠ .success → statusOf .myhostname ≠ .success →
          Source.answering? statusOf (sources.map Source.withoutCriteria) =
            kinds.find? (finds statusOf) := by
  have fallback := fallbackRoute_of_unasked noBuiltin unasked
  have decided : ((route profile host options).run state).1 = _ :=
    fst_run_route_of_sources consults intact listed nonempty
  rw [fallback] at decided
  cases found : routeOfSources? profile.allowsMulticast (HostName.withoutFinalDot host)
      state.machine.ownHostName sources with
  | none =>
      rw [found] at decided
      exact absurd decided answered
  | some route =>
      rw [found, Option.getD_some] at decided
      rw [decided]
      obtain ⟨noted, walked⟩ := kinds?_of_routeOfSources? found
      refine ⟨(tallyOf sources).kinds, noted, ?_⟩
      intro statusOf multicast own
      apply answering?_eq_find?_kinds_tallyOf
      intro source member
      exact finds_eq_false_of_walked (walked source member) multicast own

theorem route_answers_like_mixed_sources :
    ∃ kinds, ((route {} (Text.ofString "example.com.") none).run
        (serving {} (.ofHosts mixedSources))).1.kinds? = some kinds ∧
      ∀ statusOf : SourceKind → Status,
        statusOf .mdns ≠ .success → statusOf .myhostname ≠ .success →
          Source.answering? statusOf (mixedSources.map Source.withoutCriteria) =
            kinds.find? (finds statusOf) := by
  obtain ⟨intact, listed⟩ := sources_serving {} rfl mixedSources
  have answered : ((route {} (Text.ofString "example.com.") none).run
      (serving {} (.ofHosts mixedSources))).1 ≠ .native := by decide +kernel
  exact route_answers_like_sources rfl rfl consultsTable_standard intact listed
    (List.cons_ne_nil _ _) answered

end

end ResolverChoice
