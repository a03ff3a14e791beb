/-
What a cache does when it is asked for its table.

There are three courses.  A reading of the clock finds the table fresh and it is served;
or the file still has the modification time that the table was read at and the table is
kept; or the file is read.  `TableCache.lookup_course` says that no other is possible and
what each one leaves in the trace.  Whatever is shown of a cache follows from it.
-/

import ResolverChoice.Proofs.MachineFrame

namespace ResolverChoice

/-- The table that reading a file leads to, whether it can be read or not. -/
def SwitchTable.ofFile (path : String) (file : Except SystemError FileNode) : SwitchTable :=
  match file with
  | .error error => { error := some (.system error) }
  | .ok node =>
      { SwitchTable.ofText (some path) (Text.ofFile node.bytes) with
        modified := some node.modified }

namespace Machine

/-- The machine with a longer trace. -/
def leave (machine : Machine) (events : List Event) : Machine :=
  { machine with trace := machine.trace ++ events }

theorem leave_leave (machine : Machine) (first later : List Event) :
    (machine.leave first).leave later = machine.leave (first ++ later) := by
  simp only [leave, List.append_assoc]

/-- The machine after a reading of its clock. -/
def tick (machine : Machine) : Machine :=
  { machine with clock := machine.clock.advance }.leave [.clockRead machine.clock.reading]

/-- The table that reading the file at the path gives now. -/
def tableAt (machine : Machine) (path : String) : SwitchTable :=
  ((readTable path).run machine).1

def readingEvents (machine : Machine) (path : String) : List Event :=
  .opened path ::
    match machine.fileAt path with
    | .error error => [.logged (.unreadable .table path error)]
    | .ok _ => []

/-! ### Actions one by one -/

theorem run_bind {α β : Type} (action : OnMachine α) (next : α → OnMachine β)
    (machine : Machine) :
    (action >>= next).run machine = (next (action.run machine).1).run (action.run machine).2 :=
  rfl

theorem run_pure {α : Type} (value : α) (machine : Machine) :
    (pure value : OnMachine α).run machine = (value, machine) :=
  rfl

theorem run_log (notice : Notice) (machine : Machine) :
    (log notice).run machine = ((), machine.leave [.logged notice]) :=
  rfl

theorem run_readClock (machine : Machine) :
    readClock.run machine = (machine.clock.reading, machine.tick) :=
  rfl

private theorem run_readTable_eq (machine : Machine) (path : String) :
    (readTable path).run machine =
      (SwitchTable.ofFile path (machine.fileAt path),
        machine.leave (machine.readingEvents path)) := by
  unfold readTable SwitchTable.ofFile readingEvents
  rw [run_bind, run_readFile]
  cases machine.fileAt path with
  | error error =>
      change (_, (machine.leave [.opened path]).leave _) = _
      rw [leave_leave]
      rfl
  | ok node => rfl

theorem tableAt_eq_ofFile (machine : Machine) (path : String) :
    machine.tableAt path = .ofFile path (machine.fileAt path) :=
  congrArg Prod.fst (run_readTable_eq machine path)

theorem run_readTable (machine : Machine) (path : String) :
    (readTable path).run machine =
      (machine.tableAt path, machine.leave (machine.readingEvents path)) := by
  rw [run_readTable_eq, tableAt_eq_ofFile]

/-! ### What depends on the files alone -/

theorem fileAt_congr {before after : Machine} (same : before.files = after.files)
    (path : String) : before.fileAt path = after.fileAt path := by
  unfold fileAt
  rw [same]

theorem tableAt_congr {before after : Machine} (same : before.files = after.files)
    (path : String) : before.tableAt path = after.tableAt path := by
  rw [tableAt_eq_ofFile, tableAt_eq_ofFile, fileAt_congr same]

theorem readingEvents_congr {before after : Machine} (same : before.files = after.files)
    (path : String) : before.readingEvents path = after.readingEvents path := by
  unfold readingEvents
  rw [fileAt_congr same]

end Machine

namespace TableCache

open Machine

/-- Whether a table has the modification time that the file at the path has now. -/
def isCurrent (table : SwitchTable) (machine : Machine) (path : String) : Bool :=
  table.modified.any (fun read =>
    (machine.modified? path).any (fun current => current.agrees read))

theorem isCurrent_congr {before after : Machine} (same : before.files = after.files)
    (table : SwitchTable) (path : String) :
    isCurrent table before path = isCurrent table after path := by
  unfold isCurrent modified?
  rw [same]

/-- The file is examined if the table has a time to compare with. -/
def examination (table : SwitchTable) (path : String) : List Event :=
  if table.modified.isSome then [.examined path] else []

theorem run_isUnchanged (table : SwitchTable) (path : String) (machine : Machine) :
    (isUnchanged table path).run machine =
      (isCurrent table machine path, machine.leave (examination table path)) := by
  unfold isUnchanged isCurrent examination
  cases table.modified with
  | none =>
      rw [Option.isSome_none, if_neg Bool.false_ne_true]
      simp only [leave, List.append_nil]
      rfl
  | some read => rfl

theorem run_reload (cache : TableCache) (machine : Machine) :
    cache.reload.run machine =
      ((machine.tableAt cache.path, { cache with table := some (machine.tableAt cache.path) }),
        machine.leave
          (.logged (.reloading cache.path) :: machine.readingEvents cache.path)) := by
  have same : (machine.leave [.logged (.reloading cache.path)]).tableAt cache.path =
      machine.tableAt cache.path := @tableAt_congr (machine.leave _) machine rfl cache.path
  unfold reload
  rw [run_bind, run_log, run_bind, run_readTable, leave_leave, same]
  rfl

/-! ### The three courses -/

/-- The readings that are taken, what else is left in the trace, the table that is given
and the cache that remains.  A reading behind the lock is the last one. -/
inductive Course (cache : TableCache) (machine : Machine) :
    List Seconds → List Event → SwitchTable → TableCache → Prop where
  | served {table : SwitchTable} {readings : List Seconds}
      (held : cache.table = some table) (fresh : readings.any cache.isFresh = true) :
      Course cache machine readings [] table cache
  | kept {table : SwitchTable} {readings : List Seconds} {now : Seconds}
      (held : cache.table = some table)
      (stale : (readings ++ [now]).any cache.isFresh = false)
      (current : isCurrent table machine cache.path = true) :
      Course cache machine (readings ++ [now]) (examination table cache.path) table
        { cache with checkedAt := some now }
  | reread {readings : List Seconds} {now : Seconds}
      (outdated : ∀ table, cache.table = some table →
        (readings ++ [now]).any cache.isFresh = false ∧
          isCurrent table machine cache.path = false) :
      Course cache machine (readings ++ [now])
        (cache.table.elim [] (fun table => examination table cache.path) ++
          .logged (.reloading cache.path) :: machine.readingEvents cache.path)
        (machine.tableAt cache.path)
        { cache with
          table := some (machine.tableAt cache.path)
          checkedAt := some now }

/-- A reading that does not find the table fresh may come before any course. -/
theorem Course.after_stale {cache later : TableCache} {machine : Machine}
    {readings : List Seconds} {events : List Event} {table : SwitchTable} {first : Seconds}
    (course : Course cache machine readings events table later)
    (stale : cache.isFresh first = false) :
    Course cache machine (first :: readings) events table later := by
  have unseen (others : List Seconds) :
      (first :: others).any cache.isFresh = others.any cache.isFresh := by
    rw [List.any_cons, stale, Bool.false_or]
  cases course with
  | served held fresh => exact .served held ((unseen readings).trans fresh)
  | @kept _ readings now held others current =>
      exact @Course.kept _ _ _ (first :: readings) now held ((unseen _).trans others) current
  | @reread readings now outdated =>
      refine @Course.reread _ _ (first :: readings) now ?_
      intro table held
      obtain ⟨others, changed⟩ := outdated table held
      exact ⟨(unseen _).trans others, changed⟩

/-- The course depends on the files, and on nothing else of the machine. -/
theorem Course.of_files {cache later : TableCache} {before machine : Machine}
    {readings : List Seconds} {events : List Event} {table : SwitchTable}
    (course : Course cache before readings events table later)
    (same : before.files = machine.files) :
    Course cache machine readings events table later := by
  cases course with
  | served held fresh => exact .served held fresh
  | kept held stale current =>
      rw [isCurrent_congr same] at current
      exact .kept held stale current
  | reread outdated =>
      rw [tableAt_congr same, readingEvents_congr same]
      simp only [isCurrent_congr same] at outdated
      exact .reread outdated

theorem getLocked_course (cache : TableCache) (machine : Machine) :
    ∃ events,
      (cache.getLocked.run machine).2 = machine.tick.leave events ∧
      Course cache machine [machine.clock.reading] events (cache.getLocked.run machine).1.1
        (cache.getLocked.run machine).1.2 := by
  unfold getLocked
  rw [run_bind, run_readClock]
  dsimp only
  split
  · rename_i empty
    rw [run_reload]
    have course := @Course.reread cache machine.tick [] machine.clock.reading
      (fun table held => nomatch empty.symm.trans held)
    rw [empty] at course
    exact ⟨_, rfl, course.of_files rfl⟩
  · rename_i table held
    by_cases fresh : cache.isFresh machine.clock.reading = true
    · rw [if_pos fresh, run_pure]
      refine ⟨[], ?_, .served held ?_⟩
      · simp only [leave, List.append_nil]
      · simp only [List.any_cons, fresh, Bool.true_or]
    · have stale : [machine.clock.reading].any cache.isFresh = false := by
        simp only [List.any_cons, List.any_nil, Bool.or_false, Bool.eq_false_iff]
        exact fresh
      rw [if_neg fresh, run_bind, run_isUnchanged]
      cases current : isCurrent table machine.tick cache.path with
      | true =>
          have course := @Course.kept cache machine.tick table [] _ held stale current
          exact ⟨_, rfl, course.of_files rfl⟩
      | false =>
          have course := @Course.reread cache
            (machine.tick.leave (examination table cache.path)) [] machine.clock.reading
            (fun other found => by
              obtain rfl : table = other := Option.some.inj (held.symm.trans found)
              exact ⟨stale, current⟩)
          rw [held] at course
          simp only [Bool.false_eq_true, if_false, run_reload, leave_leave]
          exact ⟨_, rfl, course.of_files rfl⟩

/-- A lookup takes one of the three courses, and its readings come before all else that
it leaves in the trace. -/
theorem lookup_course (cache : TableCache) (machine : Machine) :
    ∃ readings events,
      (cache.lookup.run machine).2.trace =
        machine.trace ++ (readings.map .clockRead ++ events) ∧
      Course cache machine readings events (cache.lookup.run machine).1.1
        (cache.lookup.run machine).1.2 := by
  unfold lookup
  cases held : cache.table with
  | none =>
      obtain ⟨events, after, course⟩ := getLocked_course cache machine
      refine ⟨_, events, ?_, course⟩
      rw [after]
      simp only [leave, tick, List.append_assoc, List.map_cons, List.map_nil]
  | some table =>
      simp only
      rw [run_bind, run_readClock]
      by_cases fresh : cache.isFresh machine.clock.reading = true
      · rw [if_pos fresh, run_pure]
        refine ⟨[machine.clock.reading], [], rfl, .served held ?_⟩
        simp only [List.any_cons, fresh, Bool.true_or]
      · rw [if_neg fresh]
        obtain ⟨events, after, course⟩ := getLocked_course cache machine.tick
        refine ⟨_, events, ?_,
          (course.after_stale (Bool.eq_false_iff.mpr fresh)).of_files rfl⟩
        rw [after]
        simp only [leave, tick, List.append_assoc, List.map_cons, List.map_nil,
          List.cons_append, List.nil_append]

end TableCache

end ResolverChoice
