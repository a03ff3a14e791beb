/-
Requests that override the machine.

A resolver can be asked for when a profile is built, or by a word in the mode setting.  The
two ways are the same: a word beside a level gives the profile that the level alone gives
with the request.  Whoever asks for the built-in resolver never gets the native one, also
where both are asked for, and otherwise a request for the native one settles every lookup.
-/

import Mathlib.Data.List.TakeWhile
import ResolverChoice.Proofs.BuildFrame
import ResolverChoice.Proofs.NativeReason
import ResolverChoice.Proofs.TextParts

namespace ResolverChoice

/-! ### The mode setting -/

namespace Mode

/-- A part of the setting that is taken for a mode. -/
structure IsWord (word : Text) : Prop where
  unmarked : ∀ symbol ∈ word, (symbol == .char '+') = false
  start : ∃ first rest, word = first :: rest ∧ first.isDigit = false

/-- A level in ASCII digits. -/
structure IsLevel (digits : Text) : Prop where
  nonempty : digits ≠ []
  ascii : ∀ symbol ∈ digits, symbol.isAsciiDigit = true
  short : digits.length ≤ maximumDigits

instance (digits : Text) : Decidable (IsLevel digits) :=
  decidable_of_iff
    (digits ≠ [] ∧ (∀ symbol ∈ digits, symbol.isAsciiDigit = true) ∧
      digits.length ≤ maximumDigits)
    ⟨fun ⟨nonempty, ascii, short⟩ => ⟨nonempty, ascii, short⟩,
      fun ⟨nonempty, ascii, short⟩ => ⟨nonempty, ascii, short⟩⟩

section

variable {word digits : Text}

theorem IsLevel.unmarked (level : IsLevel digits) :
    ∀ symbol ∈ digits, (symbol == .char '+') = false := by
  intro symbol member
  rw [beq_eq_false_iff_ne]
  rintro rfl
  exact absurd (level.ascii _ member) (by decide)

/-- A level ends at the first symbol that is no digit of ASCII, and the rest does not count. -/
theorem IsLevel.readPart_append (level : IsLevel digits) {tail : Text}
    (ended : ∀ symbol ∈ tail.head?, symbol.isAsciiDigit = false) (mode : Mode) :
    mode.readPart (digits ++ tail) = .ok { mode with level := decimalNumber digits } := by
  have whole : (digits ++ tail).takeWhile Symbol.isAsciiDigit = digits := by
    rw [List.takeWhile_append_of_pos level.ascii]
    cases tail with
    | nil => exact List.append_nil digits
    | cons symbol rest =>
        rw [List.takeWhile_cons_of_neg (Bool.eq_false_iff.mp (ended symbol rfl)),
          List.append_nil]
  obtain ⟨first, rest, rfl⟩ := List.exists_cons_of_ne_nil level.nonempty
  have ascii := level.ascii first List.mem_cons_self
  have numeral : IsNumeral (first :: rest) := by
    rw [← whole, List.cons_append, isNumeral_asciiDigits_iff, ← List.cons_append, whole]
    exact ⟨ascii, level.short⟩
  have digit := Symbol.isDigit_of_isDecimal (numeral.decimal first List.mem_cons_self)
  unfold Mode.readPart
  rw [List.cons_append] at whole ⊢
  dsimp only
  rw [if_pos digit, whole, readNumeral_of_isNumeral numeral]
  rfl

theorem IsLevel.readPart (level : IsLevel digits) (mode : Mode) :
    mode.readPart digits = .ok { mode with level := decimalNumber digits } := by
  have alone := @IsLevel.readPart_append digits level [] nofun mode
  rwa [List.append_nil] at alone

theorem IsWord.readPart (isWord : IsWord word) (mode : Mode) :
    mode.readPart word = .ok { mode with word := word } := by
  obtain ⟨first, rest, rfl, start⟩ := isWord.start
  unfold Mode.readPart
  dsimp only
  rw [start, if_neg Bool.false_ne_true]

theorem ofText_pair {first second : Text}
    (unmarked : ∀ symbol ∈ first, (symbol == .char '+') = false) :
    ofText (first ++ .char '+' :: second) = (readPart {} first >>= (readPart · second)) := by
  unfold ofText parts
  rw [Text.cutAt_append_mark unmarked rfl]
  simp only [Option.toList_some, List.foldlM_cons, List.foldlM_nil, bind_pure]

theorem IsLevel.ofText (level : IsLevel digits) :
    ofText digits = .ok { level := decimalNumber digits } := by
  unfold Mode.ofText parts
  rw [Text.cutAt_of_unmarked level.unmarked]
  simp only [Option.toList_none, List.foldlM_cons, List.foldlM_nil, bind_pure]
  exact level.readPart {}

/-- A word and a level may stand in either order. -/
theorem IsWord.ofText_beside (isWord : IsWord word) (level : IsLevel digits) {setting : Text}
    (beside : setting = word ++ .char '+' :: digits ∨
      setting = digits ++ .char '+' :: word) :
    Mode.ofText setting = .ok { word := word, level := decimalNumber digits } := by
  rcases beside with rfl | rfl
  · rw [ofText_pair isWord.unmarked, isWord.readPart]
    exact level.readPart _
  · rw [ofText_pair level.unmarked, level.readPart]
    exact isWord.readPart _

theorem isWord_of_mem {word : Text} (listed : word ∈ builtinWords ++ nativeWords) :
    IsWord word := by
  have unmarked : ∀ word ∈ builtinWords ++ nativeWords, ∀ symbol ∈ word,
      (symbol == .char '+') = false := by decide
  have start : ∀ word ∈ builtinWords ++ nativeWords, ∃ first ∈ word.head?,
      first.isDigit = false := by decide +kernel
  refine ⟨unmarked word listed, ?_⟩
  obtain ⟨first, begins, notDigit⟩ := start word listed
  obtain ⟨rest, parts⟩ := List.head?_eq_some_iff.mp begins
  exact ⟨first, rest, parts, notDigit⟩

end

end Mode

/-! ### Builds -/

namespace ProfileRequest

/-- The request with another mode setting. -/
def withSetting (request : ProfileRequest) (setting : Text) : ProfileRequest :=
  { request with
    environment := fun name =>
      if name = Mode.variableName then some setting else request.environment name }

/-- The built-in resolver is asked for, by the request or in the mode setting. -/
def AsksBuiltin (request : ProfileRequest) (mode : Mode) : Prop :=
  request.wantsBuiltin = true ∨ mode.word ∈ Mode.builtinWords

def AsksNative (request : ProfileRequest) (mode : Mode) : Prop :=
  request.wantsNative = true ∨ mode.word ∈ Mode.nativeWords

variable {request : ProfileRequest} {mode : Mode} {machine : Machine} {profile : Profile}

theorem modeSetting_withSetting (setting : Text) :
    (request.withSetting setting).modeSetting = setting := by
  simp only [modeSetting, withSetting, if_true, Option.getD_some]

/-- The setting of the mode is not among the variables that an inspection looks at. -/
theorem inspect_withSetting (setting : Text) (profile : Profile) :
    (request.withSetting setting).inspect profile = request.inspect profile := by
  have resolver : (request.withSetting setting).changesResolver = request.changesResolver := rfl
  have settings : (request.withSetting setting).replacesSettings = request.replacesSettings := rfl
  unfold inspect forcesNative
  rw [resolver, settings]
  rfl

/-- Two requests with one inspection give one profile if they start it with one. -/
theorem fst_run_build_withSetting {other : ProfileRequest} {setting level : Text}
    {first second : Mode} (read : Mode.ofText setting = .ok first)
    (otherRead : Mode.ofText level = .ok second)
    (sameStart : request.start first = other.start second)
    (sameInspection : request.inspect = other.inspect) :
    ((request.withSetting setting).build.run machine).1 =
      ((other.withSetting level).build.run machine).1 := by
  rw [fst_run_build, fst_run_build, modeSetting_withSetting, modeSetting_withSetting, read,
    otherRead]
  dsimp only
  rw [inspect_withSetting, inspect_withSetting]
  change ((request.inspect (request.start first)).run machine).1 =
    ((other.inspect (other.start second)).run machine).1
  rw [sameStart, sameInspection]

/-- The request that asks for what the word in a mode setting asks for. -/
def withMode (request : ProfileRequest) (word : Text) : ProfileRequest :=
  { request with
    wantsBuiltin := request.wantsBuiltin || Mode.wantsBuiltin { word := word }
    wantsNative := request.wantsNative || Mode.wantsNative { word := word } }

theorem withMode_of_builtin {word : Text} (listed : word ∈ Mode.builtinWords) :
    request.withMode word = { request with wantsBuiltin := true } := by
  have others : ∀ word ∈ Mode.builtinWords, Mode.wantsNative { word := word } = false := by
    decide
  have builtin := (Mode.wantsBuiltin_iff { word := word }).mpr listed
  unfold withMode
  rw [builtin, others word listed, Bool.or_true, Bool.or_false]

theorem withMode_of_native {word : Text} (listed : word ∈ Mode.nativeWords) :
    request.withMode word = { request with wantsNative := true } := by
  have others : ∀ word ∈ Mode.nativeWords, Mode.wantsBuiltin { word := word } = false := by
    decide
  have native := (Mode.wantsNative_iff { word := word }).mpr listed
  unfold withMode
  rw [native, others word listed, Bool.or_true, Bool.or_false]

/-- A word beside a level is the level with the request that the word stands for. -/
theorem fst_run_build_of_word {word digits setting : Text} (isWord : Mode.IsWord word)
    (level : Mode.IsLevel digits)
    (beside : setting = word ++ .char '+' :: digits ∨
      setting = digits ++ .char '+' :: word) :
    ((request.withSetting setting).build.run machine).1 =
      (((request.withMode word).withSetting digits).build.run machine).1 := by
  have sameStart : request.start { word := word, level := decimalNumber digits } =
      (request.withMode word).start { level := decimalNumber digits } := by
    have noBuiltin : Mode.wantsBuiltin { level := decimalNumber digits } = false := by rfl
    have noNative : Mode.wantsNative { level := decimalNumber digits } = false := by rfl
    unfold start
    rw [noBuiltin, noNative, Bool.or_false, Bool.or_false]
    rfl
  exact fst_run_build_withSetting (isWord.ofText_beside level beside) level.ofText sameStart rfl

/-! ### What is asked for and what is built -/

theorem Builds.wantsBuiltin_of_asks (builds : request.Builds mode machine profile)
    (asks : request.AsksBuiltin mode) : profile.wantsBuiltin = true := by
  rw [builds.wantsBuiltin, Bool.or_eq_true, Mode.wantsBuiltin_iff]
  exact asks

theorem Builds.wantsBuiltin_of_not_asks (builds : request.Builds mode machine profile)
    (unasked : ¬request.AsksBuiltin mode) : profile.wantsBuiltin = false := by
  rw [builds.wantsBuiltin, ← Bool.not_eq_true, Bool.or_eq_true, Mode.wantsBuiltin_iff]
  exact unasked

theorem Builds.settlesAll_of_asksNative (builds : request.Builds mode machine profile)
    (asks : request.AsksNative mode) : profile.settlesAll = true := by
  rw [builds.settlesAll_iff]
  rcases asks with requested | listed
  · exact .requested requested
  · exact .mode listed

end ProfileRequest

/-! ### Lookups -/

section

open ResolverState

/-- Only a native fallback leads to the native route. -/
theorem decideRoute_ne_native {fallback : Route} (explicit : fallback ≠ .native)
    (profile : Profile) (host : Text) (ownName : Except HostNameError Text)
    (table : SwitchTable) : decideRoute profile fallback host ownName table ≠ .native := by
  rw [decideRoute_eq_orFallback]
  unfold Route.orFallback
  split
  · exact explicit
  · assumption

/-- A request for the built-in resolver keeps every lookup from the native one.  Made
together with a request for the native resolver it settles every lookup by what the
built-in one does where nothing is known; a request for the native resolver alone makes
every lookup native, unless the lookup itself asks otherwise.  It makes no difference
whether a request is made as such or by a word in the mode setting, on either side of the
level. -/
theorem requests_override_machine (request : ProfileRequest) (machine : Machine) :
    (∀ mode profile, Mode.ofText request.modeSetting = .ok mode →
      (request.build.run machine).1 = .ok profile →
        (request.AsksBuiltin mode → ∀ host options state,
          ((route profile host options).run state).1 ≠ .native ∧
          (request.AsksNative mode →
            ((route profile host options).run state).1 =
              if request.family = .windows then .dns else .filesThenDns)) ∧
        (request.AsksNative mode → ¬request.AsksBuiltin mode → ∀ host options state,
          asksForBuiltin options = false →
            ((route profile host options).run state).1 = .native)) ∧
    (∀ digits, Mode.IsLevel digits → ∀ word setting,
      setting = word ++ .char '+' :: digits ∨ setting = digits ++ .char '+' :: word →
        (word ∈ ["builtin", "go"].map Text.ofString →
          ((request.withSetting setting).build.run machine).1 =
            (({ request with wantsBuiltin := true }.withSetting digits).build.run
              machine).1) ∧
        (word ∈ ["native", "cgo"].map Text.ofString →
          ((request.withSetting setting).build.run machine).1 =
            (({ request with wantsNative := true }.withSetting digits).build.run
              machine).1)) := by
  constructor
  · intro mode profile read built
    obtain ⟨other, same, builds⟩ := ProfileRequest.builds_of_build built
    obtain rfl : other = mode := Except.ok.inj (same.symm.trans read)
    constructor
    · intro builtin host options state
      have asked : (profile.wantsBuiltin || asksForBuiltin options) = true := by
        rw [builds.wantsBuiltin_of_asks builtin, Bool.true_or]
      have fallback := fallbackRoute_of_asked asked
      constructor
      · rw [run_route, fallback]
        exact decideRoute_ne_native profile.family.builtinRoute_ne_native _ _ _ _
      · intro native
        rw [run_route_of_settlesAll (builds.settlesAll_of_asksNative native), fallback,
          builds.family]
        rfl
    · intro native noBuiltin host options state unasked
      rw [run_route_of_settlesAll (builds.settlesAll_of_asksNative native),
        fallbackRoute_of_unasked (builds.wantsBuiltin_of_not_asks noBuiltin) unasked]
  · intro digits level word setting beside
    constructor
    · intro listed
      rw [ProfileRequest.fst_run_build_of_word
        (Mode.isWord_of_mem (List.mem_append_left _ listed)) level beside,
        ProfileRequest.withMode_of_builtin listed]
    · intro listed
      rw [ProfileRequest.fst_run_build_of_word
        (Mode.isWord_of_mem (List.mem_append_right _ listed)) level beside,
        ProfileRequest.withMode_of_native listed]

/-- On Windows the native resolver is asked for by the request, and the built-in one by the
mode setting. -/
def contradictoryRequest : ProfileRequest :=
  { family := .windows, environment := fun _ => some (Text.ofString "2+go"), wantsNative := true }

def nativeModeRequest : ProfileRequest :=
  { family := .linux, environment := fun _ => some (Text.ofString "cgo") }

theorem contradictory_requests_settled :
    (∃ profile, (contradictoryRequest.build.run {}).1 = .ok profile ∧
      ∀ host state, ((route profile host none).run state).1 = .dns) ∧
    (∃ profile, (nativeModeRequest.build.run {}).1 = .ok profile ∧
      ∀ host state, ((route profile host none).run state).1 = .native) ∧
    ((contradictoryRequest.withSetting (Text.ofString "go+007")).build.run {}).1 =
      (({ contradictoryRequest with wantsBuiltin := true }.withSetting
        (Text.ofString "007")).build.run {}).1 := by
  obtain ⟨contradictory, written⟩ := requests_override_machine contradictoryRequest {}
  obtain ⟨native, _⟩ := requests_override_machine nativeModeRequest {}
  refine ⟨⟨_, rfl, ?_⟩, ⟨_, rfl, ?_⟩, ?_⟩
  · intro host state
    have settled := (contradictory { word := Text.ofString "go", level := 2 } _ rfl rfl).1
      (Or.inr (by decide)) host none state
    exact settled.2 (Or.inl rfl)
  · intro host state
    exact (native { word := Text.ofString "cgo" } _ rfl rfl).2 (Or.inr (by decide))
      (by unfold ProfileRequest.AsksBuiltin; decide) host none state rfl
  · exact (written (Text.ofString "007") (by decide +kernel) (Text.ofString "go") _
      (Or.inl rfl)).1 (by decide)

end

end ResolverChoice
