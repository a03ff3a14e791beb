/-
Lines of the resolver settings that routing does not see.

A lookup asks the settings for the last lookup order, for whether anything was unknown and
for the error that kept the file from being read.  Lines that name servers or domains, and
options that are known, bear on none of these.  So files that differ in such lines lead to
profiles that differ in what no lookup asks for, and machines with the two files answer
alike and leave their caches alike.
-/

import ResolverChoice.Proofs.BuildFrame
import ResolverChoice.Proofs.CacheAgreement
import ResolverChoice.Proofs.SettingsContents

namespace ResolverChoice

/-! ### Idle lines -/

namespace Statement

def idleKeywords : List Text :=
  ["nameserver", "domain", "search"].map Text.ofString

/-- The statement says nothing about lookup orders, and nothing in it is unknown. -/
def IsIdle (statement : Statement) : Prop :=
  statement.keyword ∈ idleKeywords ∨
    (statement.keyword = Text.ofString "options" ∧
      ∀ word ∈ statement.arguments, ¬IsUnknownOption word)

instance (statement : Statement) : Decidable statement.IsIdle :=
  inferInstanceAs (Decidable (_ ∨ _))

/-- The keyword is unknown, or the statement lists an option that is. -/
def IsUnknown (statement : Statement) : Prop :=
  statement.isKnown = false ∨
    (statement.keyword = Text.ofString "options" ∧
      ∃ word ∈ statement.arguments, IsUnknownOption word)

variable {statement : Statement}

theorem IsIdle.not_lookup (idle : statement.IsIdle) :
    statement.keyword ≠ Text.ofString "lookup" := by
  have apart : Text.ofString "lookup" ∉ idleKeywords := by decide
  rintro same
  rcases idle with listed | ⟨options, _⟩
  · rw [same] at listed
    exact apart listed
  · rw [same] at options
    exact absurd options (by decide)

theorem IsIdle.not_unknown (idle : statement.IsIdle) : ¬statement.IsUnknown := by
  have known : ∀ keyword ∈ idleKeywords, keyword ∈ knownKeywords ∧
      keyword ≠ Text.ofString "options" := by decide
  rcases idle with listed | ⟨options, allKnown⟩
  · obtain ⟨isKnown, notOptions⟩ := known statement.keyword listed
    rintro (unknown | ⟨options, _⟩)
    · exact absurd (List.contains_iff_mem.mpr isKnown) (Bool.eq_false_iff.mp unknown)
    · exact notOptions options
  · rintro (unknown | ⟨_, word, member, unknownWord⟩)
    · rw [Bool.eq_false_iff] at unknown
      exact unknown ((isKnown_iff statement).mpr (Or.inr (Or.inl options)))
    · exact allKnown word member unknownWord

end Statement

/-- A line that is blank, a comment or an idle statement. -/
def IsIdleLine (line : Text) : Prop :=
  ∀ statement ∈ Statement.ofLine? line, statement.IsIdle

instance (line : Text) : Decidable (IsIdleLine line) :=
  inferInstanceAs (Decidable (∀ statement ∈ Statement.ofLine? line, statement.IsIdle))

/-- The second list comes from the first one by putting idle lines in and taking idle lines
out, one after another and anywhere. -/
inductive IdleEdit (lines : List Text) : List Text → Prop where
  | unchanged : IdleEdit lines lines
  | inserted {before after : List Text} {line : Text} (idle : IsIdleLine line)
      (edited : IdleEdit lines (before ++ after)) : IdleEdit lines (before ++ line :: after)
  | deleted {before after : List Text} {line : Text} (idle : IsIdleLine line)
      (edited : IdleEdit lines (before ++ line :: after)) : IdleEdit lines (before ++ after)

/-! ### What routing sees of the settings -/

namespace SettingsContents

/-- The contents give the same orders, and both or neither have something unknown. -/
structure RoutesLike (contents other : SettingsContents) : Prop where
  orders : contents.orders = other.orders
  unknown : contents.HasUnknown ↔ other.HasUnknown

theorem RoutesLike.refl (contents : SettingsContents) : contents.RoutesLike contents :=
  ⟨rfl, Iff.rfl⟩

theorem RoutesLike.symm {contents other : SettingsContents}
    (like : contents.RoutesLike other) : other.RoutesLike contents :=
  ⟨like.orders.symm, like.unknown.symm⟩

theorem RoutesLike.trans {contents middle other : SettingsContents}
    (first : contents.RoutesLike middle) (second : middle.RoutesLike other) :
    contents.RoutesLike other :=
  ⟨first.orders.trans second.orders, first.unknown.trans second.unknown⟩

theorem mem_argumentsOf_iff {keyword : String} {statements : List Statement}
    {arguments : List Text} :
    arguments ∈ Statement.argumentsOf keyword statements ↔
      ∃ statement ∈ statements, statement.keyword = Text.ofString keyword ∧
        statement.arguments = arguments := by
  simp only [Statement.argumentsOf, List.mem_map, List.mem_filter, decide_eq_true_eq,
    and_assoc]

/-- Whether something is unknown is a question to each statement by itself. -/
theorem hasUnknown_iff_exists (statements : List Statement) :
    (ofStatements statements).HasUnknown ↔ ∃ statement ∈ statements, statement.IsUnknown := by
  unfold HasUnknown ofStatements
  simp only [List.mem_flatten, mem_argumentsOf_iff, ne_eq, List.map_eq_nil_iff,
    List.filter_eq_nil_iff, not_forall]
  constructor
  · rintro (⟨statement, member, unknown⟩ | ⟨word, ⟨_, ⟨statement, member, options, rfl⟩, listed⟩,
      unknown⟩)
    · refine ⟨statement, member, Or.inl ?_⟩
      simpa using unknown
    · exact ⟨statement, member, Or.inr ⟨options, word, listed, unknown⟩⟩
  · rintro ⟨statement, member, unknown | ⟨options, word, listed, unknown⟩⟩
    · refine Or.inl ⟨statement, member, ?_⟩
      simpa using unknown
    · exact Or.inr ⟨word, ⟨_, ⟨statement, member, options, rfl⟩, listed⟩, unknown⟩

theorem routesLike_of_idle {statement : Statement} (idle : statement.IsIdle)
    (before after : List Statement) :
    (ofStatements (before ++ statement :: after)).RoutesLike
      (ofStatements (before ++ after)) where
  orders := by
    simp only [ofStatements, Statement.argumentsOf, List.filter_append, List.filter_cons,
      idle.not_lookup, decide_false, Bool.false_eq_true, if_false]
  unknown := by
    simp only [hasUnknown_iff_exists, List.mem_append, List.mem_cons]
    constructor
    · rintro ⟨other, earlier | rfl | later, unknown⟩
      · exact ⟨other, Or.inl earlier, unknown⟩
      · exact absurd unknown idle.not_unknown
      · exact ⟨other, Or.inr later, unknown⟩
    · rintro ⟨other, earlier | later, unknown⟩
      · exact ⟨other, Or.inl earlier, unknown⟩
      · exact ⟨other, Or.inr (Or.inr later), unknown⟩

def ofLines (lines : List Text) : SettingsContents :=
  ofStatements (lines.filterMap Statement.ofLine?)

/-- One idle line, anywhere. -/
theorem routesLike_of_idleLine {line : Text} (idle : IsIdleLine line)
    (before after : List Text) :
    (ofLines (before ++ line :: after)).RoutesLike (ofLines (before ++ after)) := by
  unfold ofLines
  rw [List.filterMap_append, List.filterMap_append]
  cases found : Statement.ofLine? line with
  | none =>
      rw [List.filterMap_cons_none found]
      exact .refl _
  | some statement =>
      rw [List.filterMap_cons_some found]
      exact routesLike_of_idle (idle statement found) _ _

/-- Any number of them. -/
theorem routesLike_of_idleEdit {lines others : List Text} (edited : IdleEdit lines others) :
    (ofLines lines).RoutesLike (ofLines others) := by
  induction edited with
  | unchanged => exact .refl _
  | inserted idle edited ih => exact ih.trans (routesLike_of_idleLine idle _ _).symm
  | deleted idle edited ih => exact ih.trans (routesLike_of_idleLine idle _ _)

end SettingsContents

namespace ResolverSettings

/-- The settings agree on all that a lookup asks them for. -/
structure RoutesLike (settings other : ResolverSettings) : Prop where
  lookup : settings.lookup = other.lookup
  unknownOption : settings.unknownOption = other.unknownOption
  error : settings.error = other.error

theorem RoutesLike.refl (settings : ResolverSettings) : settings.RoutesLike settings :=
  ⟨rfl, rfl, rfl⟩

theorem RoutesLike.hidesContent {settings other : ResolverSettings}
    (like : settings.RoutesLike other) : settings.hidesContent = other.hidesContent := by
  unfold ResolverSettings.hidesContent
  rw [like.error]

theorem RoutesLike.routeOfSettings {settings other : ResolverSettings}
    (like : settings.RoutesLike other) (fallback : Route) :
    routeOfSettings settings fallback = routeOfSettings other fallback := by
  unfold ResolverChoice.routeOfSettings isMissing
  rw [like.error, like.lookup]

theorem routesLike_of_contents {contents other : SettingsContents}
    (like : contents.RoutesLike other) : contents.settings.RoutesLike other.settings where
  lookup := by
    unfold SettingsContents.settings
    rw [like.orders]
  unknownOption := decide_eq_decide.mpr like.unknown
  error := rfl

/-- What is read from a text after idle lines were put in and taken out. -/
theorem routesLike_of_idleEdit {text other : Text} {settings otherSettings : ResolverSettings}
    (edited : IdleEdit (Text.lines text) (Text.lines other))
    (read : ofText text = .ok settings) (otherRead : ofText other = .ok otherSettings) :
    settings.RoutesLike otherSettings := by
  have readable := (ofText_exists_iff_readable text).mp ⟨settings, read⟩
  have otherReadable := (ofText_exists_iff_readable other).mp ⟨otherSettings, otherRead⟩
  rw [ofText_of_readable readable] at read
  rw [ofText_of_readable otherReadable] at otherRead
  obtain rfl := Except.ok.inj read
  obtain rfl := Except.ok.inj otherRead
  exact routesLike_of_contents (SettingsContents.routesLike_of_idleEdit edited)

end ResolverSettings

/-! ### Lookups and builds -/

/-- The same profile but for settings that lookups cannot tell apart. -/
structure Profile.RoutesLike (profile other : Profile) : Prop where
  settings : profile.settings.RoutesLike other.settings
  others : other = { profile with settings := other.settings }

namespace Profile.RoutesLike

variable {profile other : Profile}

theorem routeBeforeTable? (like : profile.RoutesLike other) (fallback : Route) (host : Text) :
    routeBeforeTable? profile fallback host = routeBeforeTable? other fallback host := by
  rw [like.others]
  unfold ResolverChoice.routeBeforeTable?
  dsimp only
  rw [like.settings.unknownOption, like.settings.routeOfSettings]

/-- Lookups under the two profiles are the same actions. -/
theorem route (like : profile.RoutesLike other) (host : Text)
    (options : Option LookupOptions) :
    ResolverState.route profile host options = ResolverState.route other host options := by
  have sameFallback : fallbackRoute other options = fallbackRoute profile options := by
    rw [like.others]
    rfl
  have sameByTable : ∀ fallback ownName table,
      routeByTable other fallback host ownName table =
        routeByTable profile fallback host ownName table := by
    intro fallback ownName table
    rw [like.others]
    rfl
  have sameLevel : other.debugLevel = profile.debugLevel := by
    rw [like.others]
  unfold ResolverState.route ResolverState.routeUnder
  simp only [sameFallback, sameByTable, sameLevel, like.routeBeforeTable?]

theorem allowsNative (like : profile.RoutesLike other) :
    ResolverState.allowsNative profile = ResolverState.allowsNative other := by
  unfold ResolverState.allowsNative
  rw [like.route]

end Profile.RoutesLike

/-- Both fail in the same way, or both give profiles that lookups cannot tell apart. -/
inductive BuiltAlike : Except Fault Profile → Except Fault Profile → Prop where
  | fault (fault : Fault) : BuiltAlike (.error fault) (.error fault)
  | profile {profile other : Profile} (like : profile.RoutesLike other) :
      BuiltAlike (.ok profile) (.ok other)

namespace ProfileRequest

/-- What an inspection gives, without what it tells to the log. -/
theorem fst_run_inspect (request : ProfileRequest) (profile : Profile) (machine : Machine) :
    ((request.inspect profile).run machine).1 =
      if !profile.family.usesCLibrary then
        .ok { profile with wantsNative := profile.wantsNative || !profile.wantsBuiltin }
      else if request.forcesNative profile then .ok { profile with forcesNative := true }
      else (((readSettings request.settingsPath).run machine).1).map (fun settings =>
        { profile with
          settings := settings
          forcesNative := settings.hidesContent
          allowsMulticast := machine.hasFile request.multicastPath }) := by
  unfold inspect
  split
  · rfl
  · split
    · rfl
    · rw [Machine.run_bind, ← hasFile_after_readSettings request.settingsPath]
      cases ((readSettings request.settingsPath).run machine).1 with
      | error fault => rfl
      | ok settings => rfl

section

variable {request : ProfileRequest} {machine other : Machine}

/-- Machines whose settings are read alike are inspected alike. -/
theorem builtAlike_inspect {settings otherSettings : ResolverSettings}
    (multicast : machine.hasFile request.multicastPath = other.hasFile request.multicastPath)
    (read : ((readSettings request.settingsPath).run machine).1 = .ok settings)
    (otherRead : ((readSettings request.settingsPath).run other).1 = .ok otherSettings)
    (like : settings.RoutesLike otherSettings) (profile : Profile) :
    BuiltAlike ((request.inspect profile).run machine).1
      ((request.inspect profile).run other).1 := by
  rw [fst_run_inspect, fst_run_inspect, read, otherRead, multicast]
  split
  · exact .profile ⟨.refl _, rfl⟩
  · split
    · exact .profile ⟨.refl _, rfl⟩
    · refine .profile ⟨like, ?_⟩
      dsimp only
      rw [like.hidesContent]

theorem builtAlike_build {settings otherSettings : ResolverSettings}
    (multicast : machine.hasFile request.multicastPath = other.hasFile request.multicastPath)
    (read : ((readSettings request.settingsPath).run machine).1 = .ok settings)
    (otherRead : ((readSettings request.settingsPath).run other).1 = .ok otherSettings)
    (like : settings.RoutesLike otherSettings) :
    BuiltAlike (request.build.run machine).1 (request.build.run other).1 := by
  rw [fst_run_build, fst_run_build]
  cases Mode.ofText request.modeSetting with
  | error fault => exact .fault fault
  | ok mode => exact builtAlike_inspect multicast read otherRead like _

end

end ProfileRequest

/-! ### Asking under a built profile -/

namespace ResolverState

section

variable {α : Type}

/-- A profile is built, and something is asked under it. -/
def askBuilt (request : ProfileRequest) (ask : Profile → OnState α) :
    OnState (Except Fault α) := do
  match ← onMachine request.build with
  | .error fault => return .error fault
  | .ok profile => return .ok (← ask profile)

variable (request : ProfileRequest) {ask : Profile → OnState α}
  {state other : ResolverState}

def afterBuild (state : ResolverState) : ResolverState :=
  { state with machine := (request.build.run state.machine).2 }

theorem run_askBuilt (ask : Profile → OnState α) (state : ResolverState) :
    (askBuilt request ask).run state =
      askUnder ask (request.build.run state.machine).1 (afterBuild request state) := by
  unfold askBuilt
  simp only [StateT.run_bind, run_onMachine]
  cases (request.build.run state.machine).1 with
  | error fault => rfl
  | ok profile => rfl

/-- A build leaves the machine as it was, so lookups still see the same. -/
theorem LooksUpLike.afterBuild (like : state.LooksUpLike other) :
    (afterBuild request state).LooksUpLike (afterBuild request other) := by
  obtain ⟨_, events, _, given⟩ := FromFiles.build request state.machine
  obtain ⟨_, others, _, otherGiven⟩ := FromFiles.build request other.machine
  refine ⟨like.tables, ?_⟩
  unfold ResolverState.afterBuild
  rw [given state.machine rfl, otherGiven other.machine rfl]
  exact like.machine.leave events others

theorem askUnder_alike {result otherResult : Except Fault Profile}
    (like : state.LooksUpLike other) (alike : BuiltAlike result otherResult)
    (sameAction : ∀ profile other : Profile, profile.RoutesLike other → ask profile = ask other)
    (sameAnswers : ∀ profile (state other : ResolverState), state.LooksUpLike other →
      SameFrom (ask profile) state other) :
    (askUnder ask result state).1 = (askUnder ask otherResult other).1 ∧
      (askUnder ask result state).2.tables = (askUnder ask otherResult other).2.tables := by
  cases alike with
  | fault fault => exact ⟨rfl, like.tables⟩
  | @profile profile otherProfile routesLike =>
      have same := sameAnswers profile state other like
      dsimp only [askUnder]
      rw [← sameAction profile otherProfile routesLike]
      exact ⟨congrArg Except.ok same.answer, same.tables⟩

theorem SameFrom.askBuilt (like : state.LooksUpLike other)
    (alike : BuiltAlike (request.build.run state.machine).1 (request.build.run other.machine).1)
    (sameAction : ∀ profile other : Profile, profile.RoutesLike other → ask profile = ask other)
    (sameAnswers : ∀ profile (state other : ResolverState), state.LooksUpLike other →
      SameFrom (ask profile) state other) :
    SameFrom (askBuilt request ask) state other := by
  obtain ⟨answer, tables⟩ := askUnder_alike (like.afterBuild request) alike sameAction sameAnswers
  constructor
  · rw [run_askBuilt, run_askBuilt, answer]
  · rw [run_askBuilt, run_askBuilt, tables]

/-- Where the mode setting and the settings can be read, there is an answer. -/
theorem askBuilt_answers {mode : Mode} (ask : Profile → OnState α) {state : ResolverState}
    (read : Mode.ofText request.modeSetting = .ok mode)
    (readable : state.machine.HasReadableSettings request.settingsPath) :
    ∃ answer, ((askBuilt request ask).run state).1 = .ok answer := by
  have buildable : request.IsBuildable state.machine :=
    ⟨(Mode.ofText_exists_iff_readable _).mp ⟨mode, read⟩, fun _ _ _ => readable⟩
  obtain ⟨profile, built⟩ := (request.build_exists_iff_buildable state.machine).mpr buildable
  refine ⟨((ask profile).run (afterBuild request state)).1, ?_⟩
  rw [run_askBuilt, built]
  rfl

/-- Settings files that differ in idle lines, on machines that are alike otherwise.  From
both, what is built leads to the same answers, or to the same fault in the mode setting,
and to the same cache. -/
theorem idle_lines_change_no_lookup {node otherNode : FileNode}
    (like : state.LooksUpLike other)
    (multicast : state.machine.hasFile request.multicastPath =
      other.machine.hasFile request.multicastPath)
    (file : state.machine.fileAt request.settingsPath = .ok node)
    (otherFile : other.machine.fileAt request.settingsPath = .ok otherNode)
    (edited : IdleEdit (Text.lines (Text.ofFile node.bytes))
      (Text.lines (Text.ofFile otherNode.bytes)))
    (reads : ∃ settings, ResolverSettings.ofText (Text.ofFile node.bytes) = .ok settings)
    (otherReads : ∃ settings,
      ResolverSettings.ofText (Text.ofFile otherNode.bytes) = .ok settings) :
    (∀ host options, SameFrom (askBuilt request (route · host options)) state other) ∧
    SameFrom (askBuilt request allowsNative) state other ∧
    ∀ mode, Mode.ofText request.modeSetting = .ok mode →
      (∀ host options, ∃ route,
        ((askBuilt request (ResolverState.route · host options)).run state).1 = .ok route) ∧
      ∃ allowed, ((askBuilt request allowsNative).run state).1 = .ok allowed := by
  have readable : state.machine.HasReadableSettings request.settingsPath := by
    intro found same
    obtain rfl := Except.ok.inj (file.symm.trans same)
    exact (ResolverSettings.ofText_exists_iff_readable _).mp reads
  obtain ⟨settings, read⟩ := reads
  obtain ⟨otherSettings, otherRead⟩ := otherReads
  have routesLike := ResolverSettings.routesLike_of_idleEdit edited read otherRead
  have alike : BuiltAlike (request.build.run state.machine).1
      (request.build.run other.machine).1 := by
    apply ProfileRequest.builtAlike_build multicast _ _ routesLike
    · rw [fst_run_readSettings, file]
      exact read
    · rw [fst_run_readSettings, otherFile]
      exact otherRead
  refine ⟨?_, ?_, ?_⟩
  · intro host options
    apply SameFrom.askBuilt request like alike
    · intro profile other routesLike
      exact routesLike.route host options
    · intro profile state other like
      exact like.route profile host options
  · apply SameFrom.askBuilt request like alike
    · intro profile other routesLike
      exact routesLike.allowsNative
    · intro profile state other like
      exact like.allowsNative profile
  · intro mode readMode
    refine ⟨?_, ?_⟩
    · intro host options
      exact askBuilt_answers request (ResolverState.route · host options) readMode readable
    · exact askBuilt_answers request allowsNative readMode readable

def withSettings (node : FileNode) : ResolverState :=
  { machine := Machine.writeFile {} ResolverSettings.standardPath node }

theorem files_withSettings (node : FileNode) (path : String) :
    (withSettings node).machine.files path =
      if path = ResolverSettings.standardPath then some node else none :=
  rfl

theorem looksUpLike_withSettings (node other : FileNode) :
    (withSettings node).LooksUpLike (withSettings other) := by
  have apart : SwitchTable.standardPath ≠ ResolverSettings.standardPath := by decide
  have absent : ∀ node, (withSettings node).machine.files SwitchTable.standardPath = none := by
    intro node
    rw [files_withSettings, if_neg apart]
  exact ⟨rfl, (absent node).trans (absent other).symm, rfl, rfl⟩

theorem fileAt_withSettings {node : FileNode}
    (readable : node.openError = none ∧ node.readError = none) :
    (withSettings node).machine.fileAt ResolverSettings.standardPath = .ok node := by
  simp only [Machine.fileAt, files_withSettings, if_true, readable.1, readable.2]

def lookupLine : FileNode :=
  .ofLines ["search example.org", "lookup file bind"]

/-- The search line is taken out, and a comment, a server and options are put in. -/
def lookupLineAmongOthers : FileNode :=
  .ofLines
    ["# local", "lookup file bind", "nameserver 192.0.2.1", "options rotate ndots:3"]

theorem idle_lines_beside_lookup_line :
    ((askBuilt .onOpenbsd (route · (Text.ofString "example.com") none)).run
        (withSettings lookupLine)).1 = .ok .filesThenDns ∧
    ((askBuilt .onOpenbsd (route · (Text.ofString "example.com") none)).run
        (withSettings lookupLineAmongOthers)).1 = .ok .filesThenDns := by
  have lines : Text.lines (Text.ofFile lookupLine.bytes) =
      ["search example.org", "lookup file bind"].map Text.ofString := by decide +kernel
  have otherLines : Text.lines (Text.ofFile lookupLineAmongOthers.bytes) =
      ["# local", "lookup file bind", "nameserver 192.0.2.1",
        "options rotate ndots:3"].map Text.ofString := by decide +kernel
  have edited : IdleEdit (Text.lines (Text.ofFile lookupLine.bytes))
      (Text.lines (Text.ofFile lookupLineAmongOthers.bytes)) := by
    rw [lines, otherLines]
    have searchTaken := @IdleEdit.deleted
      (["search example.org", "lookup file bind"].map Text.ofString) [] _ _
      (by decide +kernel) .unchanged
    have commentPut := @IdleEdit.inserted _ [] _ (Text.ofString "# local")
      (by decide +kernel) searchTaken
    have serverPut := @IdleEdit.inserted _
      (["# local", "lookup file bind"].map Text.ofString) []
      (Text.ofString "nameserver 192.0.2.1") (by decide +kernel) commentPut
    exact @IdleEdit.inserted _
      (["# local", "lookup file bind", "nameserver 192.0.2.1"].map Text.ofString) []
      (Text.ofString "options rotate ndots:3") (by decide +kernel) serverPut
  have same := (idle_lines_change_no_lookup .onOpenbsd (looksUpLike_withSettings _ _)
    (by decide +kernel) (fileAt_withSettings ⟨rfl, rfl⟩) (fileAt_withSettings ⟨rfl, rfl⟩) edited
    ((exists_ok_iff_faultOf?_eq_none _).mpr (by decide +kernel))
    ((exists_ok_iff_faultOf?_eq_none _).mpr (by decide +kernel))).1
      (Text.ofString "example.com") none
  have answer : ((askBuilt .onOpenbsd (route · (Text.ofString "example.com") none)).run
      (withSettings lookupLine)).1 = .ok .filesThenDns := by
    decide +kernel
  refine ⟨answer, ?_⟩
  rw [← same.answer]
  exact answer

end

end ResolverState

end ResolverChoice
