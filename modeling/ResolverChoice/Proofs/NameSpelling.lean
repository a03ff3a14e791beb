/-
Names in different spellings.

A name can be spelled with other cases of its ASCII letters, and with a dot at its end that
marks it as complete.  A lookup tests a name for escapes and otherwise sees it without that
dot and in small letters.  So neither way of spelling a host, nor the case in which the
machine spells its own name, makes a difference to what is answered and kept.
-/

import Mathlib.Data.List.Forall2
import ResolverChoice.Proofs.HostRoute
import ResolverChoice.Proofs.LookupCourse

namespace ResolverChoice

/-! ### Letters -/

/-- The same symbol, or the two forms of an ASCII letter.  They are 32 code points apart. -/
inductive Symbol.SameLetter : Symbol → Symbol → Prop where
  | same (symbol : Symbol) : SameLetter symbol symbol
  | lowered {capital small : Char} (letter : capital.isUpper = true)
      (apart : small.toNat = capital.toNat + 32) : SameLetter (.char capital) (.char small)
  | raised {capital small : Char} (letter : capital.isUpper = true)
      (apart : small.toNat = capital.toNat + 32) : SameLetter (.char small) (.char capital)

theorem isUpper_iff_toNat (character : Char) :
    character.isUpper = true ↔ 65 ≤ character.toNat ∧ character.toNat ≤ 90 :=
  decide_eq_true_iff

theorem isLower_iff_toNat (character : Char) :
    character.isLower = true ↔ 97 ≤ character.toNat ∧ character.toNat ≤ 122 := by
  unfold Char.isLower
  rw [Bool.and_eq_true, decide_eq_true_iff, decide_eq_true_iff]
  exact Iff.rfl

theorem isAlpha_iff_toNat (character : Char) :
    character.isAlpha = true ↔ (65 ≤ character.toNat ∧ character.toNat ≤ 90) ∨
      (97 ≤ character.toNat ∧ character.toNat ≤ 122) := by
  unfold Char.isAlpha
  rw [Bool.or_eq_true, isUpper_iff_toNat, isLower_iff_toNat]

theorem toNat_toLower (character : Char) :
    character.toLower.toNat =
      if character.isUpper then character.toNat + 32 else character.toNat := by
  simp only [isUpper_iff_toNat]
  unfold Char.toLower
  by_cases upper : character.isUpper = true
  · have bounds := (isUpper_iff_toNat character).mp upper
    have small : character.val.toNat + 32 < 2 ^ 32 := by
      rw [Char.toNat_val]
      omega
    rw [if_pos bounds, dif_pos (of_decide_eq_true upper)]
    exact (UInt32.toNat_add character.val 32).trans (Nat.mod_eq_of_lt small)
  · have bounds := mt (isUpper_iff_toNat character).mpr upper
    rw [if_neg bounds, dif_neg (fun within => upper (decide_eq_true within))]

namespace Symbol

theorem SameLetter.foldAscii {symbol other : Symbol} (same : SameLetter symbol other) :
    symbol.foldAscii = other.foldAscii := by
  have folded {capital small : Char} (letter : capital.isUpper = true)
      (apart : small.toNat = capital.toNat + 32) : capital.toLower = small.toLower := by
    have bounds := (isUpper_iff_toNat capital).mp letter
    have noCapital : small.isUpper ≠ true := by
      rw [ne_eq, isUpper_iff_toNat]
      omega
    apply Char.toNat_inj.mp
    rw [toNat_toLower, toNat_toLower, if_pos letter, if_neg noCapital, apart]
  cases same with
  | same symbol => rfl
  | lowered letter apart => exact congrArg Symbol.char (folded letter apart)
  | raised letter apart => exact congrArg Symbol.char (folded letter apart).symm

theorem SameLetter.of_toLower {first second : Char} (folded : first.toLower = second.toLower) :
    SameLetter (.char first) (.char second) := by
  have codes := congrArg Char.toNat folded
  rw [toNat_toLower, toNat_toLower] at codes
  cases firstCase : first.isUpper with
  | true =>
      cases secondCase : second.isUpper with
      | true =>
          rw [if_pos firstCase, if_pos secondCase] at codes
          have equal : first = second := Char.toNat_inj.mp (Nat.add_right_cancel codes)
          rw [equal]
          exact .same _
      | false =>
          rw [if_pos firstCase, if_neg (Bool.eq_false_iff.mp secondCase)] at codes
          exact .lowered firstCase codes.symm
  | false =>
      rw [if_neg (Bool.eq_false_iff.mp firstCase)] at codes
      cases secondCase : second.isUpper with
      | true =>
          rw [if_pos secondCase] at codes
          exact .raised secondCase codes
      | false =>
          rw [if_neg (Bool.eq_false_iff.mp secondCase)] at codes
          rw [Char.toNat_inj.mp codes]
          exact .same _

/-- Folding tells letters apart exactly as far as they differ in more than case. -/
theorem foldAscii_eq_iff (symbol other : Symbol) :
    symbol.foldAscii = other.foldAscii ↔ SameLetter symbol other := by
  constructor
  · intro folded
    cases symbol with
    | char first =>
        cases other with
        | char second => exact .of_toLower (Symbol.char.inj folded)
        | stray byte => cases folded
    | stray byte =>
        cases other with
        | char second => cases folded
        | stray second =>
            cases folded
            exact .same _
  · exact SameLetter.foldAscii

/-- A mark that is no letter has no other spelling. -/
theorem foldAscii_eq_mark_iff {mark : Char} (noLetter : mark.isAlpha = false)
    (symbol : Symbol) : symbol.foldAscii = .char mark ↔ symbol = .char mark := by
  have bounds := mt (isAlpha_iff_toNat mark).mpr (Bool.eq_false_iff.mp noLetter)
  cases symbol with
  | stray byte => exact iff_of_false nofun nofun
  | char character =>
      change Symbol.char character.toLower = .char mark ↔ _
      rw [Symbol.char.injEq, Symbol.char.injEq, ← Char.toNat_inj, ← Char.toNat_inj, toNat_toLower]
      split
      · rename_i upper
        have capital := (isUpper_iff_toNat character).mp upper
        omega
      · rfl

end Symbol

namespace Text

/-- The texts differ at most in the case of their ASCII letters. -/
def SameSpelling (text other : Text) : Prop :=
  List.Forall₂ Symbol.SameLetter text other

theorem foldAscii_eq_iff (text other : Text) :
    foldAscii text = foldAscii other ↔ SameSpelling text other := by
  unfold foldAscii SameSpelling
  rw [← List.forall₂_eq_eq_eq, List.forall₂_map_left_iff, List.forall₂_map_right_iff]
  simp only [Symbol.foldAscii_eq_iff]

end Text

/-! ### What is tested on names -/

namespace HostName

theorem contains_foldAscii {mark : Char} (noLetter : mark.isAlpha = false) (name : Text) :
    (Text.foldAscii name).contains (.char mark) = name.contains (.char mark) := by
  rw [Bool.eq_iff_iff, List.contains_iff_mem, List.contains_iff_mem, Text.foldAscii,
    List.mem_map]
  simp only [Symbol.foldAscii_eq_mark_iff noLetter, exists_eq_right]

theorem hasEscape_foldAscii (name : Text) : hasEscape (Text.foldAscii name) = hasEscape name := by
  unfold hasEscape
  rw [contains_foldAscii (by decide), contains_foldAscii (by decide)]

theorem withoutFinalDot_foldAscii (name : Text) :
    withoutFinalDot (Text.foldAscii name) = Text.foldAscii (withoutFinalDot name) := by
  have dotted : (Text.foldAscii name).getLast? = some (.char '.') ↔
      name.getLast? = some (.char '.') := by
    rw [Text.foldAscii, List.getLast?_map, Option.map_eq_some_iff]
    simp only [Symbol.foldAscii_eq_mark_iff (by decide : ('.').isAlpha = false),
      exists_eq_right]
  unfold withoutFinalDot
  simp only [dotted]
  split
  · exact List.map_dropLast.symm
  · rfl

/-- All that a lookup tests on the names comes out the same. -/
structure ReadAlike (host other : Text) : Prop where
  escape : hasEscape host = hasEscape other
  folded : Text.foldAscii (withoutFinalDot host) = Text.foldAscii (withoutFinalDot other)

theorem ReadAlike.of_sameSpelling {host other : Text} (same : Text.SameSpelling host other) :
    ReadAlike host other := by
  have folded := (Text.foldAscii_eq_iff host other).mpr same
  constructor
  · rw [← hasEscape_foldAscii, folded, hasEscape_foldAscii]
  · rw [← withoutFinalDot_foldAscii, folded, withoutFinalDot_foldAscii]

theorem withoutFinalDot_concat (name : Text) : withoutFinalDot (name ++ [.char '.']) = name := by
  unfold withoutFinalDot
  rw [List.getLast?_concat, if_pos rfl, List.dropLast_concat]

theorem ReadAlike.of_finalDot {host : Text} (incomplete : host.getLast? ≠ some (.char '.')) :
    ReadAlike host (host ++ [.char '.']) := by
  constructor
  · simp [hasEscape]
  · rw [withoutFinalDot_concat]
    unfold withoutFinalDot
    rw [if_neg incomplete]

theorem endsIn_congr {name other : Text} (folded : Text.foldAscii name = Text.foldAscii other)
    (ending : String) : endsIn name ending = endsIn other ending := by
  unfold endsIn
  rw [folded]

theorem equals_congr {name other : Text} (folded : Text.foldAscii name = Text.foldAscii other)
    (word : String) : equals name word = equals other word := by
  unfold equals
  rw [folded]

theorem isMulticast_congr {name other : Text}
    (folded : Text.foldAscii name = Text.foldAscii other) :
    isMulticast name = isMulticast other :=
  endsIn_congr folded ".local"

end HostName

open HostName

theorem mayBeOwnName_congr {host other : Text}
    (folded : Text.foldAscii host = Text.foldAscii other)
    (ownName : Except HostNameError Text) :
    mayBeOwnName host ownName = mayBeOwnName other ownName := by
  unfold mayBeOwnName isLoopback isGatewayName isOutboundName agree
  simp only [equals_congr folded, endsIn_congr folded, folded]

/-! ### Decisions -/

section

variable {host other : Text} {profile : Profile}

theorem HostName.ReadAlike.routeBeforeTable? (alike : ReadAlike host other)
    (profile : Profile) (fallback : Route) :
    ResolverChoice.routeBeforeTable? profile fallback host =
      ResolverChoice.routeBeforeTable? profile fallback other := by
  unfold ResolverChoice.routeBeforeTable?
  rw [alike.escape, isMulticast_congr alike.folded]

/-- The table's decision looks at names only to see whether the machine may answer. -/
theorem routeByTable_congr {ownName otherName : Except HostNameError Text}
    (same : mayBeOwnName (withoutFinalDot host) ownName =
      mayBeOwnName (withoutFinalDot other) otherName)
    (profile : Profile) (fallback : Route) (table : SwitchTable) :
    routeByTable profile fallback host ownName table =
      routeByTable profile fallback other otherName table := by
  unfold routeByTable routeOfSources?
  rw [same]

theorem HostName.ReadAlike.decideRoute (alike : ReadAlike host other) (profile : Profile)
    (fallback : Route) (ownName : Except HostNameError Text) (table : SwitchTable) :
    ResolverChoice.decideRoute profile fallback host ownName table =
      ResolverChoice.decideRoute profile fallback other ownName table := by
  unfold ResolverChoice.decideRoute
  rw [alike.routeBeforeTable?,
    routeByTable_congr (mayBeOwnName_congr alike.folded ownName)]

theorem HostName.ReadAlike.consulted (alike : ReadAlike host other) (profile : Profile)
    (state : ResolverState) : state.consulted profile host = state.consulted profile other := by
  unfold ResolverState.consulted
  rw [alike.routeBeforeTable?]

end

/-! ### The machine's own name -/

/-- The machine, called otherwise. -/
def Machine.named (machine : Machine) (name : Text) : Machine :=
  { machine with hostName := .ok name }

theorem mayBeOwnName_named {machine : Machine} {name other : Text}
    (same : Text.SameSpelling name other) (host : Text) :
    mayBeOwnName host (machine.named name).ownHostName =
      mayBeOwnName host (machine.named other).ownHostName := by
  have folded := (Text.foldAscii_eq_iff name other).mpr same
  have unnamed : name = [] ↔ other = [] := by
    rw [← List.length_eq_zero_iff, ← List.length_eq_zero_iff, List.Forall₂.length_eq same]
  rw [Bool.eq_iff_iff, mayBeOwnName_iff, mayBeOwnName_iff]
  simp only [MayAnswerItself, Machine.named, folded, unnamed]

/-- The action does the same on the machine under every name, and leaves the name alone. -/
def IgnoresName {α : Type} (action : OnMachine α) : Prop :=
  ∀ (machine : Machine) (name : Text),
    action.run (machine.named name) =
      ((action.run machine).1, ((action.run machine).2).named name)

theorem IgnoresName.of_parts (path : String) :
    HoldsOfParts path (fun _ action => IgnoresName action) where
  pure _ := fun _ _ => rfl
  bind := by
    intro α β action next first later machine name
    rw [Machine.run_bind, Machine.run_bind, first, later]
  log _ := fun _ _ => rfl
  readClock := fun _ _ => rfl
  readModified := fun _ _ => rfl
  readFile := by
    intro machine name
    rw [Machine.run_readFile, Machine.run_readFile]
    rfl

namespace ResolverState

def named (state : ResolverState) (name : Text) : ResolverState :=
  { state with machine := state.machine.named name }

variable (profile : Profile) (host : Text) (options : Option LookupOptions)
  (state : ResolverState) (name : Text)

theorem run_systemTable :
    systemTable.run state =
      ((state.tables.lookup.run state.machine).1.1,
        { state with
          machine := (state.tables.lookup.run state.machine).2
          tables := (state.tables.lookup.run state.machine).1.2 }) :=
  rfl

theorem run_systemTable_named :
    systemTable.run (state.named name) =
      ((systemTable.run state).1, ((systemTable.run state).2).named name) := by
  have looked : (state.named name).tables.lookup.run (state.named name).machine = _ :=
    (IgnoresName.of_parts state.tables.path).lookup state.machine name
  rw [run_systemTable (state.named name), looked]
  rfl

theorem consulted_named :
    (state.named name).consulted profile host = (state.consulted profile host).named name := by
  unfold consulted
  rw [run_systemTable_named]
  split
  · rfl
  · rfl

/-- What a lookup answers on a machine that is called otherwise, and what it leaves. -/
theorem run_route_named :
    (route profile host options).run (state.named name) =
      (decideRoute profile (fallbackRoute profile options) host
          (state.machine.named name).ownHostName (systemTable.run state).1,
        ((state.consulted profile host).named name).told profile host
          (decideRoute profile (fallbackRoute profile options) host
            (state.machine.named name).ownHostName (systemTable.run state).1)) := by
  rw [run_route, run_systemTable_named, consulted_named]
  rfl

/-! ### Lookups -/

/-- One route came back, and one cache and clock were left. -/
structure SameOutcome (first second : Route × ResolverState) : Prop where
  route : first.1 = second.1
  tables : first.2.tables = second.2.tables
  clock : first.2.machine.clock = second.2.machine.clock

/-- Telling a decision to the log changes neither the cache nor the clock. -/
theorem SameOutcome.of_told {chosen other : Route} {left right : ResolverState}
    {firstHost secondHost : Text} (same : chosen = other) (tables : left.tables = right.tables)
    (clock : left.machine.clock = right.machine.clock) :
    SameOutcome (chosen, left.told profile firstHost chosen)
      (other, right.told profile secondHost other) := by
  subst same
  unfold told
  split
  · exact ⟨rfl, tables, clock⟩
  · exact ⟨rfl, tables, clock⟩

theorem sameOutcome_of_readAlike {host other : Text} (alike : HostName.ReadAlike host other) :
    SameOutcome ((route profile host options).run state)
      ((route profile other options).run state) := by
  rw [run_route, run_route, alike.decideRoute, alike.consulted]
  exact .of_told profile rfl rfl rfl

/-- Names of hosts that differ only in the case of ASCII letters or in a dot at the end, and
names of the machine that differ only in the case of ASCII letters, are answered alike, and the
cache is left alike. -/
theorem spelling_changes_no_lookup :
    (∀ host other, Text.SameSpelling host other →
      SameOutcome ((route profile host options).run state)
        ((route profile other options).run state)) ∧
    (∀ host : Text, host.getLast? ≠ some (.char '.') →
      SameOutcome ((route profile host options).run state)
        ((route profile (host ++ [.char '.']) options).run state)) ∧
    (∀ host name other, Text.SameSpelling name other →
      SameOutcome ((route profile host options).run (state.named name))
        ((route profile host options).run (state.named other))) := by
  refine ⟨?_, ?_, ?_⟩
  · intro host other same
    exact sameOutcome_of_readAlike profile options state (.of_sameSpelling same)
  · intro host incomplete
    exact sameOutcome_of_readAlike profile options state (.of_finalDot incomplete)
  · intro host name other same
    have decided := @mayBeOwnName_named state.machine name other same
      (HostName.withoutFinalDot host)
    rw [run_route_named, run_route_named]
    refine .of_told profile ?_ rfl rfl
    unfold decideRoute
    rw [routeByTable_congr decided]

/-- The machine is asked for its own name between the two kinds that look names up. -/
def ownNameSources : List Source :=
  [.ofName (Text.ofString "files") [], .ofName (Text.ofString "myhostname") [],
    .ofName (Text.ofString "dns") []]

def askingItself : ResolverState :=
  serving {} (.ofHosts ownNameSources)

theorem own_name_recognized_in_capitals :
    ((route {} (Text.ofString "myhostname") none).run askingItself).1 = .native ∧
      ((route {} (Text.ofString "MyHostName") none).run askingItself).1 = .native ∧
      ((route {} (Text.ofString "myhostname.") none).run askingItself).1 = .native ∧
      SameOutcome
        ((route {} (Text.ofString "box") none).run (askingItself.named (Text.ofString "BOX")))
        ((route {} (Text.ofString "box") none).run
          (askingItself.named (Text.ofString "Box"))) := by
  have native : ((route {} (Text.ofString "myhostname") none).run askingItself).1 = .native := by
    decide +kernel
  obtain ⟨cased, dotted, named⟩ := spelling_changes_no_lookup {} none askingItself
  have capitals := cased (Text.ofString "myhostname") (Text.ofString "MyHostName")
    ((Text.foldAscii_eq_iff _ _).mp (by decide))
  have completed := dotted (Text.ofString "myhostname") (by decide)
  refine ⟨native, ?_, ?_, ?_⟩
  · exact capitals.route.symm.trans native
  · exact completed.route.symm.trans native
  · exact named (Text.ofString "box") _ _ ((Text.foldAscii_eq_iff _ _).mp (by decide))

end ResolverState

end ResolverChoice
