/-
How old a table can be that a cache serves.

Modification times are all that a cache compares, so it can be right about a file only if
they tell its states apart.  Where they do, every table that is served is the one that
the file gave, or would have given, when the cache was last stamped; and a table that was
stamped earlier is served only on a reading of the clock that is less than the time to
live after that stamp.
-/

import ResolverChoice.Proofs.CacheHistory
import ResolverChoice.Proofs.RoundedTime

namespace ResolverChoice

/-- The modification time of the file as far as it can be seen, by examining the file or
by opening it. -/
def Machine.visibleTime? (machine : Machine) (path : String) : Option Seconds :=
  match machine.files path with
  | none => none
  | some node =>
      if node.statError.isNone || node.openError.isNone then some node.modified else none

open Session

/-- Two states of the file in which the same modification time can be seen give the same
table.  What counts as the same table is left open. -/
def TimesTell (Same : SwitchTable → SwitchTable → Prop) (path : String)
    (run : List Moment) : Prop :=
  ∀ first ∈ run, ∀ second ∈ run,
    ∀ firstTime ∈ first.machine.visibleTime? path,
      ∀ secondTime ∈ second.machine.visibleTime? path,
        secondTime.agrees firstTime = true →
          Same (first.machine.tableAt path) (second.machine.tableAt path)

instance (Same : SwitchTable → SwitchTable → Prop) [DecidableRel Same] (path : String)
    (run : List Moment) : Decidable (TimesTell Same path run) :=
  inferInstanceAs (Decidable (∀ first ∈ run, ∀ second ∈ run,
    ∀ firstTime ∈ first.machine.visibleTime? path,
      ∀ secondTime ∈ second.machine.visibleTime? path,
        secondTime.agrees firstTime = true →
          Same (first.machine.tableAt path) (second.machine.tableAt path)))

/-! ### Times of tables and times of files -/

theorem Machine.visibleTime?_of_modified? {machine : Machine} {path : String} {time : Seconds}
    (examined : machine.modified? path = some time) :
    machine.visibleTime? path = some time := by
  unfold modified? at examined
  unfold visibleTime?
  cases found : machine.files path with
  | none => rw [found] at examined; cases examined
  | some node =>
      rw [found] at examined
      dsimp only at examined ⊢
      split at examined
      · rename_i open?
        rw [open?, Bool.true_or, if_pos rfl]
        exact examined
      · cases examined

theorem Machine.visibleTime?_of_modified_tableAt {machine : Machine} {path : String}
    {time : Seconds} (read : (machine.tableAt path).modified = some time) :
    machine.visibleTime? path = some time := by
  rw [Machine.tableAt_eq_ofFile] at read
  unfold SwitchTable.ofFile fileAt at read
  unfold visibleTime?
  cases found : machine.files path with
  | none => rw [found] at read; cases read
  | some node =>
      obtain ⟨bytes, modified, openError, readError, statError⟩ := node
      rw [found] at read
      cases openError with
      | some errno => cases read
      | none =>
          cases readError with
          | some errno => cases read
          | none =>
              simp only [Option.isNone_none, Bool.or_true, if_true]
              exact read

theorem TableCache.visible_of_isCurrent {table : SwitchTable} {machine : Machine} {path : String}
    (current : isCurrent table machine path = true) :
    ∃ read shown, table.modified = some read ∧ machine.visibleTime? path = some shown ∧
      shown.agrees read = true := by
  unfold isCurrent at current
  cases held : table.modified with
  | none => rw [held] at current; cases current
  | some read =>
      rw [held] at current
      cases examined : machine.modified? path with
      | none => rw [examined] at current; cases current
      | some shown =>
          rw [examined] at current
          exact ⟨read, shown, rfl, Machine.visibleTime?_of_modified? examined, current⟩

/-! ### What the cache holds -/

/-- The table that is held was read from the file at some moment of the past, and is the
same as the one that the file gave at the latest moment that stamped the cache. -/
structure Backed (Same : SwitchTable → SwitchTable → Prop) (past : List Moment)
    (cache : TableCache) (table : SwitchTable) : Prop where
  source : ∃ source ∈ past, table = source.machine.tableAt cache.path
  check : ∃ check stamp, lastStamped past = some (check, stamp) ∧
    check.step = .cachedTable ∧ Same table (check.machine.tableAt cache.path)

section

variable {Same : SwitchTable → SwitchTable → Prop} {start : TableCache} {past : List Moment}
  {moment : Moment}

/-- A table that is backed stays so while nothing stamps the cache. -/
theorem Backed.append_of_unstamped {cache : TableCache} {table : SwitchTable}
    (backed : Backed Same past cache table) (unstamped : moment.stamp? = none) :
    Backed Same (past ++ [moment]) cache table := by
  obtain ⟨⟨source, member, read⟩, ⟨check, stamp, last, found⟩⟩ := backed
  refine ⟨⟨source, List.mem_append_left _ member, read⟩, ⟨check, stamp, ?_, found⟩⟩
  rw [lastStamped_append, unstamped]
  exact last

theorem Backed.after_step (reflexive : ∀ table, Same table table)
    (tracks : Tracks start past moment.session.cache)
    (telling : TimesTell Same moment.session.cache.path (past ++ [moment]))
    (notStarted : moment.step.startsCache = false) (notFilled : moment.step.fillsCache = false)
    (backed : ∀ table, moment.session.cache.table = some table →
      Backed Same past moment.session.cache table) :
    ∀ table, moment.after.cache.table = some table →
      Backed Same (past ++ [moment]) moment.after.cache table := by
  have last : moment ∈ past ++ [moment] := List.mem_append_right past List.mem_cons_self
  by_cases asked : moment.step = .cachedTable
  · cases Moment.got asked tracks.paired with
    | served held taken fresh unstamped answer after events =>
        rw [after]
        intro table found
        exact (backed table found).append_of_unstamped unstamped
    | @kept table now held stale current reading stamped answer after opened =>
        rw [after]
        intro other found
        obtain rfl : table = other := Option.some.inj (held.symm.trans found)
        obtain ⟨⟨source, member, read⟩, _⟩ := backed table held
        have member := List.mem_append_left [moment] member
        obtain ⟨readTime, shownTime, modified, shown, agreed⟩ :=
          TableCache.visible_of_isCurrent current
        rw [read] at modified
        -- The table was read at the time that the file shows now, so it is what reading
        -- the file now would give.
        have same := telling source member moment last readTime
          (Machine.visibleTime?_of_modified_tableAt modified) shownTime shown agreed
        rw [← read] at same
        refine ⟨⟨source, member, read⟩, ⟨moment, now, ?_, asked, same⟩⟩
        rw [lastStamped_append, stamped]
        rfl
    | @reread now stale changed reading stamped answer after opened =>
        rw [after]
        rintro table ⟨⟩
        refine ⟨⟨moment, last, rfl⟩, ⟨moment, now, ?_, asked, reflexive _⟩⟩
        rw [lastStamped_append, stamped]
        rfl
  · obtain ⟨unstamped, after⟩ := Moment.after_of_other notStarted notFilled asked
    rw [after]
    intro table found
    exact (backed table found).append_of_unstamped unstamped

end

/-! ### Runs -/

section

variable {Same : SwitchTable → SwitchTable → Prop} {start : Session} {steps : List Step}
  {past later : List Moment} {moment : Moment}

theorem backed_after_moment (reflexive : ∀ table, Same table table) (new : start.cache.IsNew)
    (lookups : ∀ step ∈ steps, step.startsCache = false ∧ step.fillsCache = false)
    (telling : TimesTell Same start.cache.path (moments start steps))
    (cut : moments start steps = past ++ moment :: later)
    (backed : ∀ table, moment.session.cache.table = some table →
      Backed Same past moment.session.cache table) :
    ∀ table, moment.after.cache.table = some table →
      Backed Same (past ++ [moment]) moment.after.cache table := by
  have tracks := Tracks.of_moments new (fun step member => (lookups step member).1) cut
  have within : ∀ other ∈ past ++ [moment], other ∈ moments start steps := by
    intro other member
    rw [cut, List.append_cons]
    exact List.mem_append_left later member
  have listed := within moment (List.mem_append_right past List.mem_cons_self)
  obtain ⟨notStarted, notFilled⟩ := lookups _ (step_mem_of_mem_moments listed)
  refine Backed.after_step reflexive tracks ?_ notStarted notFilled backed
  rw [tracks.path]
  exact fun first firstMember second secondMember =>
    telling first (within first firstMember) second (within second secondMember)

theorem backed_of_moments (reflexive : ∀ table, Same table table) (new : start.cache.IsNew)
    (lookups : ∀ step ∈ steps, step.startsCache = false ∧ step.fillsCache = false)
    (telling : TimesTell Same start.cache.path (moments start steps))
    (cut : moments start steps = past ++ moment :: later) :
    ∀ table, moment.session.cache.table = some table →
      Backed Same past moment.session.cache table := by
  refine moments_invariant (fun past reached => ∀ table, reached.cache.table = some table →
    Backed Same past reached.cache table) ?_ ?_ cut
  · intro table held
    rw [new.noTable] at held
    cases held
  · exact fun past moment later cut => backed_after_moment reflexive new lookups telling cut

/-- Every table that the cache serves in a run of lookups is the same as the one that the
file gave, or would have given, at the latest lookup that stamped the cache.  If that is
an earlier one, the present lookup took a reading of the clock that is less than the time
to live after the stamp. -/
theorem served_table_was_current (reflexive : ∀ table, Same table table)
    (new : start.cache.IsNew) (fits : start.cache.timeToLive.Fits start.cache.precision)
    (lookups : ∀ step ∈ steps, step.startsCache = false ∧ step.fillsCache = false)
    (telling : TimesTell Same start.cache.path (moments start steps))
    (cut : moments start steps = past ++ moment :: later)
    (asked : moment.step = .cachedTable) :
    ∃ table check stamp,
      moment.answer = .ok (.table table) ∧
      lastStamped (past ++ [moment]) = some (check, stamp) ∧
      check.step = .cachedTable ∧ check.readings.getLast? = some stamp ∧
      Same table (check.machine.tableAt start.cache.path) ∧
      (moment.stamp? = none → ∃ reading ∈ moment.readings,
        (reading.minus .exact stamp).isLess start.cache.timeToLive = true) := by
  have tracks := Tracks.of_moments new (fun step member => (lookups step member).1) cut
  have got := Moment.got asked tracks.paired
  obtain ⟨table, answer, held, path⟩ := got.answer_held
  have before := backed_of_moments reflexive new lookups telling cut
  obtain ⟨check, stamp, last, checked, same⟩ :=
    (backed_after_moment reflexive new lookups telling cut before table held).check
  rw [path, tracks.path] at same
  refine ⟨table, check, stamp, answer, last, checked, ?_, same, ?_⟩
  · exact Moment.getLast?_of_stamp? checked (stamp?_of_lastStamped last).2
  · intro unstamped
    obtain ⟨reading, taken, fresh⟩ := got.fresh_of_unstamped unstamped
    refine ⟨reading, taken, Seconds.isLess_exact_of_isLess fits ?_⟩
    rw [lastStamped_append, unstamped] at last
    have stamped := tracks.stamped
    rw [show lastStamped past = some (check, stamp) from last] at stamped
    unfold TableCache.isFresh at fresh
    rw [stamped, tracks.precision, tracks.timeToLive] at fresh
    exact fresh

/-- A table is read, then kept past its time to live, then served fresh although the
file has been edited meanwhile. -/
def editedFileSteps : List Step :=
  let file (line : String) (modified : Seconds) : FileNode :=
    { FileNode.ofLines [line] with modified := modified }
  [.writeFile SwitchTable.standardPath (file "hosts: files" 1), .cachedTable, .cachedTable,
    .writeFile SwitchTable.standardPath (file "hosts: dns" 2), .cachedTable]

def editedFileStart : Session :=
  { state := { machine := { clock := { reading := 1000, later := [1006, 1006, 1010] } } } }

theorem edited_file_table_was_current :
    ∃ past moment, moments editedFileStart editedFileSteps = past ++ [moment] ∧
      moment.step = .cachedTable ∧ moment.stamp? = none ∧
      TimesTell Eq SwitchTable.standardPath (past ++ [moment]) ∧
      ∃ table check stamp,
        moment.answer = .ok (.table table) ∧
        lastStamped (past ++ [moment]) = some (check, stamp) ∧
        check.step = .cachedTable ∧ check.readings.getLast? = some stamp ∧
        table = check.machine.tableAt SwitchTable.standardPath ∧
        (moment.stamp? = none → ∃ reading ∈ moment.readings,
          (reading.minus .exact stamp).isLess 5 = true) := by
  have cut : moments editedFileStart editedFileSteps =
      (moments editedFileStart editedFileSteps).take 4 ++
        [(moments editedFileStart editedFileSteps).get ⟨4, by decide⟩] := rfl
  have telling : TimesTell Eq SwitchTable.standardPath
      (moments editedFileStart editedFileSteps) := by decide +kernel
  have fits : Seconds.Fits .binary64 5 := by
    rintro value ⟨⟩
    decide +kernel
  refine ⟨_, _, cut, rfl, by decide +kernel, cut ▸ telling, ?_⟩
  exact @served_table_was_current Eq editedFileStart editedFileSteps _ [] _ (fun _ => rfl)
    ⟨rfl, rfl⟩ fits (by decide) telling cut rfl

end

end ResolverChoice
