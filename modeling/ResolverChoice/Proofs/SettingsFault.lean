/-
When reading the resolver settings fails.

Only a number in an options line can stop the reading.  Which words fail, and how,
does not depend on what was read before them, so a file fails as the first failing
word of its options lines does, and a file without such a word is read whatever else
is in it.
-/

import ResolverChoice.Proofs.MachineFrame
import ResolverChoice.Proofs.ReadableNumber

namespace ResolverChoice

/-! ### Options -/

namespace ResolverOption

def fault? : ResolverOption → Option Fault
  | .ndots value => faultOf? (ResolverSettings.leadingNumber value)
  | .timeout value => faultOf? (ResolverSettings.readTimeout value)
  | .attempts value => faultOf? (ResolverSettings.leadingNumber value)
  | .ignored => none
  | .unknown => none

/-- The option has no number, or one that can be read. -/
def IsReadable : ResolverOption → Prop
  | .ndots value => ResolverSettings.HasReadableNumber value
  | .timeout value => ResolverSettings.HasReadableTimeout value
  | .attempts value => ResolverSettings.HasReadableNumber value
  | .ignored => True
  | .unknown => True

theorem fault?_eq_none_iff (option : ResolverOption) :
    option.fault? = none ↔ option.IsReadable := by
  cases option with
  | ndots value => exact ResolverSettings.faultOf?_leadingNumber_eq_none_iff value
  | timeout value => exact ResolverSettings.faultOf?_readTimeout_eq_none_iff value
  | attempts value => exact ResolverSettings.faultOf?_leadingNumber_eq_none_iff value
  | ignored => exact iff_of_true rfl trivial
  | unknown => exact iff_of_true rfl trivial

end ResolverOption

def Directive.optionWords : Directive → List Text
  | .options words => words
  | .nameserver _ => []
  | .lookup _ => []
  | .searchList => []
  | .unknown => []

namespace ResolverSettings

def lineOptionWords (line : Text) : List Text :=
  match Directive.ofLine? line with
  | none => []
  | some directive => directive.optionWords

/-- The options of all lines, in file order. -/
def optionWords (text : Text) : List Text :=
  (Text.lines text).flatMap lineOptionWords

def wordFault? (word : Text) : Option Fault :=
  (ResolverOption.ofWord word).fault?

/-! ### From words to files -/

theorem faultOf?_applyOption (settings : ResolverSettings) (word : Text) :
    faultOf? (settings.applyOption word) = wordFault? word := by
  unfold applyOption wordFault?
  cases ResolverOption.ofWord word with
  | ndots value => exact faultOf?_bind_of_ok _ (fun _ => rfl)
  | timeout value => exact faultOf?_bind_of_ok _ (fun _ => rfl)
  | attempts value => exact faultOf?_bind_of_ok _ (fun _ => rfl)
  | ignored => rfl
  | unknown => rfl

theorem faultOf?_apply (settings : ResolverSettings) (directive : Directive) :
    faultOf? (settings.apply directive) = directive.optionWords.findSome? wordFault? := by
  cases directive with
  | nameserver addresses =>
      cases addresses with
      | nil => rfl
      | cons address others => rfl
  | options words => exact faultOf?_foldlM faultOf?_applyOption words settings
  | lookup order => rfl
  | searchList => rfl
  | unknown => rfl

theorem faultOf?_applyLine (settings : ResolverSettings) (line : Text) :
    faultOf? (settings.applyLine line) = (lineOptionWords line).findSome? wordFault? := by
  unfold applyLine lineOptionWords
  cases Directive.ofLine? line with
  | none => rfl
  | some directive => exact faultOf?_apply settings directive

private theorem findSome?_flatMap {α β γ : Type} (parts : α → List β) (test : β → Option γ)
    (items : List α) :
    (items.flatMap parts).findSome? test =
      items.findSome? (fun item => (parts item).findSome? test) := by
  induction items with
  | nil => rfl
  | cons item rest ih =>
      rw [List.flatMap_cons, List.findSome?_append, List.findSome?_cons, ih]
      cases (parts item).findSome? test with
      | none => rfl
      | some found => rfl

/-- A file is refused for its first option that cannot be read. -/
theorem faultOf?_ofText (text : Text) :
    faultOf? (ofText text) = (optionWords text).findSome? wordFault? := by
  have finished : faultOf? (ofText text) =
      faultOf? ((Text.lines text).foldlM applyLine { servers := [] }) :=
    faultOf?_bind_of_ok _ (fun _ => rfl)
  rw [finished, faultOf?_foldlM faultOf?_applyLine, optionWords, findSome?_flatMap]

/-- Every number that the options of the text give can be read. -/
def IsReadableText (text : Text) : Prop :=
  ∀ word ∈ optionWords text, (ResolverOption.ofWord word).IsReadable

theorem ofText_exists_iff_readable (text : Text) :
    (∃ settings, ofText text = .ok settings) ↔ IsReadableText text := by
  rw [exists_ok_iff_faultOf?_eq_none, faultOf?_ofText, List.findSome?_eq_none_iff]
  constructor
  · intro faultless word listed
    exact (ResolverOption.fault?_eq_none_iff _).mp (faultless word listed)
  · intro readable word listed
    exact (ResolverOption.fault?_eq_none_iff _).mpr (readable word listed)

end ResolverSettings

/-! ### Reading on a machine -/

/-- The file of settings has no number that cannot be read.  A file that cannot be
opened or read has none. -/
def Machine.HasReadableSettings (machine : Machine) (path : String) : Prop :=
  ∀ node, machine.fileAt path = .ok node →
    ResolverSettings.IsReadableText (Text.ofFile node.bytes)

theorem fst_run_readSettings (machine : Machine) (path : String) :
    ((readSettings path).run machine).1 =
      match machine.fileAt path with
      | .error error => .ok (.unreadable error)
      | .ok node => ResolverSettings.ofText (Text.ofFile node.bytes) := by
  unfold readSettings
  rw [StateT.run_bind, Machine.run_readFile]
  cases machine.fileAt path with
  | error error => rfl
  | ok node => rfl

/-- Errors of the file system never stop the reading, numbers may. -/
theorem readSettings_exists_iff_readable (machine : Machine) (path : String) :
    (∃ settings, ((readSettings path).run machine).1 = .ok settings) ↔
      machine.HasReadableSettings path := by
  rw [fst_run_readSettings]
  unfold Machine.HasReadableSettings
  cases machine.fileAt path with
  | error error =>
      constructor
      · intro _ node impossible
        cases impossible
      · intro _
        exact ⟨.unreadable error, rfl⟩
  | ok node =>
      constructor
      · intro reads other same
        cases same
        exact (ResolverSettings.ofText_exists_iff_readable _).mp reads
      · intro readable
        exact (ResolverSettings.ofText_exists_iff_readable _).mpr (readable node rfl)

end ResolverChoice
