/-
What the library's actions leave as it was.

Opening a file, reading the clock and logging add to the trace, and a reading moves
the clock on.  Files, variables, platform and host name change from outside only, so
a lookup sees the same machine after its cache was consulted as before.

The cache is made of a few questions to the machine.  Whatever passes on from actions to
those that follow them holds of the cache if it holds of these questions.
-/

import ResolverChoice.ResolverState

namespace ResolverChoice

namespace Machine

/-- Nothing but the clock and the trace may differ. -/
structure SameWorld (before after : Machine) : Prop where
  files : after.files = before.files
  environment : after.environment = before.environment
  hostName : after.hostName = before.hostName
  platform : after.platform = before.platform
  hasAndroidLevel : after.hasAndroidLevel = before.hasAndroidLevel

theorem SameWorld.refl (machine : Machine) : machine.SameWorld machine :=
  ⟨rfl, rfl, rfl, rfl, rfl⟩

theorem SameWorld.trans {before middle after : Machine}
    (first : before.SameWorld middle) (second : middle.SameWorld after) :
    before.SameWorld after where
  files := second.files.trans first.files
  environment := second.environment.trans first.environment
  hostName := second.hostName.trans first.hostName
  platform := second.platform.trans first.platform
  hasAndroidLevel := second.hasAndroidLevel.trans first.hasAndroidLevel

theorem SameWorld.ownHostName {before after : Machine} (same : before.SameWorld after) :
    after.ownHostName = before.ownHostName := by
  simp only [Machine.ownHostName, same.hostName]

/-! ### Files -/

def fileAt (machine : Machine) (path : String) : Except SystemError FileNode :=
  match machine.files path with
  | none => .error (.numbered .noEntry)
  | some node =>
      match node.openError, node.readError with
      | some errno, _ => .error (.numbered errno)
      | none, some errno => .error (.numbered errno)
      | none, none => .ok node

theorem run_readFile (machine : Machine) (path : String) :
    (readFile path).run machine =
      (machine.fileAt path, { machine with trace := machine.trace ++ [.opened path] }) := by
  change (match machine.files path with | none => _ | some node => _ : OnMachine _).run _ = _
  unfold fileAt
  cases machine.files path with
  | none => rfl
  | some node =>
      obtain ⟨bytes, modified, openError, readError, statError⟩ := node
      cases openError <;> cases readError <;> rfl

end Machine

/-! ### What a cache is made of -/

/-- The property holds of values, of what a machine is asked by a cache for the path, and
of actions one after the other if it holds of each. -/
structure HoldsOfParts (path : String) (Holds : (α : Type) → OnMachine α → Prop) : Prop where
  pure : ∀ {α : Type} (value : α), Holds α (Pure.pure value)
  bind : ∀ {α β : Type} {action : OnMachine α} {next : α → OnMachine β},
    Holds α action → (∀ value, Holds β (next value)) → Holds β (action >>= next)
  log : ∀ notice, Holds Unit (Machine.log notice)
  readClock : Holds Seconds Machine.readClock
  readModified : Holds (Option Seconds) (Machine.readModified path)
  readFile : Holds (Except SystemError FileNode) (Machine.readFile path)

namespace HoldsOfParts

variable {path : String} {Holds : (α : Type) → OnMachine α → Prop}

theorem readTable (parts : HoldsOfParts path Holds) : Holds SwitchTable (readTable path) := by
  apply parts.bind parts.readFile
  intro result
  cases result with
  | error error => exact parts.bind (parts.log _) (fun _ => parts.pure _)
  | ok node => exact parts.pure _

theorem isUnchanged (parts : HoldsOfParts path Holds) (table : SwitchTable) :
    Holds Bool (TableCache.isUnchanged table path) := by
  unfold TableCache.isUnchanged
  cases table.modified with
  | none => exact parts.pure _
  | some read => exact parts.bind parts.readModified (fun _ => parts.pure _)

variable {cache : TableCache} (parts : HoldsOfParts cache.path Holds)

include parts

theorem reload : Holds (SwitchTable × TableCache) cache.reload :=
  parts.bind (parts.log _) (fun _ => parts.bind parts.readTable (fun _ => parts.pure _))

theorem getLocked : Holds (SwitchTable × TableCache) cache.getLocked := by
  apply parts.bind parts.readClock
  intro now
  have reloading := @reload Holds { cache with checkedAt := some now } parts
  cases cache.table with
  | none => exact reloading
  | some table =>
      by_cases fresh : cache.isFresh now = true
      · simp only [if_pos fresh]
        exact parts.pure _
      · simp only [if_neg fresh]
        apply parts.bind (parts.isUnchanged table)
        intro unchanged
        split
        · exact parts.pure _
        · exact reloading

theorem lookup : Holds (SwitchTable × TableCache) cache.lookup := by
  unfold TableCache.lookup
  cases cache.table with
  | none => exact parts.getLocked
  | some table =>
      apply parts.bind parts.readClock
      intro now
      split
      · exact parts.pure _
      · exact parts.getLocked

end HoldsOfParts

/-! ### Actions that keep the world -/

/-- The action moves at most the clock and adds at most to the trace. -/
def KeepsWorld {α : Type} (action : OnMachine α) : Prop :=
  ∀ machine : Machine, machine.SameWorld (action.run machine).2

theorem KeepsWorld.of_parts (path : String) :
    HoldsOfParts path (fun _ action => KeepsWorld action) where
  pure _ := Machine.SameWorld.refl
  bind first later := fun machine => (first machine).trans (later _ _)
  log _ := fun _ => ⟨rfl, rfl, rfl, rfl, rfl⟩
  readClock := fun _ => ⟨rfl, rfl, rfl, rfl, rfl⟩
  readModified := fun _ => ⟨rfl, rfl, rfl, rfl, rfl⟩
  readFile := by
    intro machine
    rw [Machine.run_readFile]
    exact ⟨rfl, rfl, rfl, rfl, rfl⟩

theorem KeepsWorld.lookup (cache : TableCache) : KeepsWorld cache.lookup :=
  (of_parts cache.path).lookup

end ResolverChoice
