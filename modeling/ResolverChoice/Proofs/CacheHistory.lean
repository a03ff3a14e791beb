/-
The cache of a session, from its start to any moment of a run.

A moment stamps the cache if it puts a table in, or if it asks for the table and no
reading of the clock finds it fresh.  The cache always holds the stamp of the latest
moment that made one, and holds a table exactly when there is such a moment.
-/

import ResolverChoice.Proofs.CacheCourse
import ResolverChoice.Proofs.SessionHistory

namespace ResolverChoice

/-- Neither a table nor a stamp is held. -/
structure TableCache.IsNew (cache : TableCache) : Prop where
  noTable : cache.table = none
  noStamp : cache.checkedAt = none

/-- Whether the step puts another cache in the place of the session's own. -/
def Step.startsCache : Step → Bool
  | .newCache _ _ => true
  | _ => false

/-- Whether the step puts a table into the session's cache. -/
def Step.fillsCache : Step → Bool
  | .replaceCachedTable _ _ => true
  | _ => false

namespace Session.Moment

variable (moment : Moment)

/-- The stamp that the moment puts on the cache.  A table that is put in is stamped with
the reading and the offset; a table that is asked for and not found fresh, with the
reading behind the lock. -/
def stamp? : Option Seconds :=
  match moment.step with
  | .cachedTable =>
      if moment.readings.any moment.session.cache.isFresh then none
      else moment.readings.getLast?
  | .replaceCachedTable _ offset =>
      moment.readings.getLast?.map (fun now => now.plus moment.session.cache.precision offset)
  | _ => none

end Session.Moment

/-- The latest moment that stamped the cache, and its stamp. -/
def Session.lastStamped (past : List Moment) : Option (Moment × Seconds) :=
  (past.filterMap (fun moment => moment.stamp?.map (fun stamp => (moment, stamp)))).getLast?

open Session

/-! ### Single moments -/

theorem Machine.opened_readingEvents (machine : Machine) (path : String) :
    (machine.readingEvents path).filterMap Event.opened? = [path] := by
  unfold readingEvents
  cases machine.fileAt path <;> rfl

theorem Event.opened_clockRead (readings : List Seconds) :
    (readings.map Event.clockRead).filterMap Event.opened? = [] := by
  rw [List.filterMap_map, List.filterMap_eq_nil_iff]
  intro reading _
  rfl

theorem TableCache.opened_examination (table : SwitchTable) (path : String) :
    (examination table path).filterMap Event.opened? = [] := by
  unfold examination
  split <;> rfl

theorem TableCache.Course.filterMap_reading? {cache later : TableCache} {machine : Machine}
    {readings : List Seconds} {events : List Event} {table : SwitchTable}
    (course : Course cache machine readings events table later) :
    events.filterMap Event.reading? = [] := by
  have examined (table : SwitchTable) :
      (examination table cache.path).filterMap Event.reading? = [] := by
    unfold examination
    split <;> rfl
  cases course with
  | served held fresh => rfl
  | kept held stale current => exact examined table
  | reread outdated =>
      unfold Machine.readingEvents
      cases cache.table <;> cases machine.fileAt cache.path <;>
        simp [examined, Event.reading?]

/-- Nothing is fresh before it was checked. -/
theorem TableCache.isFresh_of_unchecked {cache : TableCache} (unchecked : cache.checkedAt = none)
    (now : Seconds) : cache.isFresh now = false := by
  simp only [isFresh, unchecked]

namespace Session.Moment

variable {moment : Moment}

/-- How the session's cache answers when it holds a table just if it holds a stamp. -/
inductive Got (moment : Moment) : Prop where
  | served {table : SwitchTable} {reading : Seconds}
      (held : moment.session.cache.table = some table)
      (taken : reading ∈ moment.readings)
      (fresh : moment.session.cache.isFresh reading = true)
      (unstamped : moment.stamp? = none)
      (answer : moment.answer = .ok (.table table))
      (after : moment.after.cache = moment.session.cache)
      (events : moment.events = moment.readings.map .clockRead)
  | kept {table : SwitchTable} {now : Seconds}
      (held : moment.session.cache.table = some table)
      (stale : ∀ reading ∈ moment.readings, moment.session.cache.isFresh reading = false)
      (current : TableCache.isCurrent table moment.machine moment.session.cache.path = true)
      (last : moment.readings.getLast? = some now)
      (stamped : moment.stamp? = some now)
      (answer : moment.answer = .ok (.table table))
      (after : moment.after.cache = { moment.session.cache with checkedAt := some now })
      (opened : moment.opened = [])
  | reread {now : Seconds}
      (stale : ∀ reading ∈ moment.readings, moment.session.cache.isFresh reading = false)
      (changed : ∀ table, moment.session.cache.table = some table →
        TableCache.isCurrent table moment.machine moment.session.cache.path = false)
      (last : moment.readings.getLast? = some now)
      (stamped : moment.stamp? = some now)
      (answer : moment.answer =
        .ok (.table (moment.machine.tableAt moment.session.cache.path)))
      (after : moment.after.cache =
        { moment.session.cache with
          table := some (moment.machine.tableAt moment.session.cache.path)
          checkedAt := some now })
      (opened : moment.opened = [moment.session.cache.path])

theorem stamp?_of_fresh (asked : moment.step = .cachedTable)
    (fresh : moment.readings.any moment.session.cache.isFresh = true) :
    moment.stamp? = none := by
  simp only [stamp?, asked, fresh, if_true]

theorem stamp?_of_stale (asked : moment.step = .cachedTable)
    (stale : moment.readings.any moment.session.cache.isFresh = false) :
    moment.stamp? = moment.readings.getLast? := by
  simp only [stamp?, asked, stale, Bool.false_eq_true, if_false]

theorem opened_of_events {later : List Event}
    (left : moment.events = moment.readings.map .clockRead ++ later) :
    moment.opened = later.filterMap Event.opened? := by
  rw [opened, left, List.filterMap_append, Event.opened_clockRead, List.nil_append]

theorem course_of_get (asked : moment.step = .cachedTable) :
    ∃ readings events table later,
      moment.readings = readings ∧ moment.events = readings.map .clockRead ++ events ∧
      moment.answer = .ok (.table table) ∧ moment.after.cache = later ∧
      TableCache.Course moment.session.cache moment.machine readings events table later := by
  obtain ⟨session, step⟩ := moment
  subst asked
  obtain ⟨readings, events, trace, course⟩ := session.cache.lookup_course
    { session.state.machine with trace := [] }
  have left : (Moment.mk session .cachedTable).events =
      readings.map .clockRead ++ events := trace
  refine ⟨readings, events, _, _, ?_, left, rfl, rfl, course.of_files rfl⟩
  unfold Moment.readings
  rw [left, List.filterMap_append, course.filterMap_reading?, List.append_nil,
    List.filterMap_map]
  exact List.filterMap_some

theorem got (asked : moment.step = .cachedTable)
    (paired : moment.session.cache.table.isSome = moment.session.cache.checkedAt.isSome) :
    moment.Got := by
  obtain ⟨readings, events, table, later, taken, left, answer, after, course⟩ :=
    course_of_get asked
  rw [← taken] at left
  have opened := opened_of_events left
  cases course with
  | served held fresh =>
      have unstamped := stamp?_of_fresh asked (taken.symm ▸ fresh)
      obtain ⟨reading, member, fresh⟩ := List.any_eq_true.mp fresh
      rw [List.append_nil] at left
      exact .served held (taken ▸ member) fresh unstamped answer after left
  | @kept _ readings now held stale current =>
      have stamped := stamp?_of_stale asked (taken.symm ▸ stale)
      have last : moment.readings.getLast? = some now := by
        rw [taken, List.getLast?_concat]
      refine .kept held ?_ current last (stamped.trans last) answer after ?_
      · rw [taken]
        exact fun reading member => Bool.eq_false_iff.mpr (List.any_eq_false.mp stale reading member)
      · rw [opened, TableCache.opened_examination]
  | @reread readings now outdated =>
      have stale : (readings ++ [now]).any moment.session.cache.isFresh = false := by
        cases held : moment.session.cache.table with
        | some table => exact (outdated table held).1
        | none =>
            rw [held, Option.isSome_none] at paired
            have unchecked : moment.session.cache.checkedAt = none := by
              rw [← Option.isNone_iff_eq_none, ← Option.isSome_eq_false_iff]
              exact paired.symm
            simp only [List.any_eq_false, TableCache.isFresh_of_unchecked unchecked,
              Bool.false_eq_true, not_false_iff, implies_true]
      have stamped := stamp?_of_stale asked (taken.symm ▸ stale)
      have last : moment.readings.getLast? = some now := by
        rw [taken, List.getLast?_concat]
      refine .reread ?_ (fun table held => (outdated table held).2) last
        (stamped.trans last) answer after ?_
      · rw [taken]
        exact fun reading member => Bool.eq_false_iff.mpr (List.any_eq_false.mp stale reading member)
      · rw [opened, List.filterMap_append, List.filterMap_cons]
        cases moment.session.cache.table <;>
          simp only [Option.elim, TableCache.opened_examination, Machine.opened_readingEvents,
            Event.opened?, List.filterMap_nil, List.nil_append]

/-- Whatever the course, the table that is given is the one that is held afterwards. -/
theorem Got.answer_held (got : moment.Got) :
    ∃ table, moment.answer = .ok (.table table) ∧ moment.after.cache.table = some table ∧
      moment.after.cache.path = moment.session.cache.path := by
  cases got with
  | @served table _ held taken fresh unstamped answer after events =>
      exact ⟨table, answer, by rw [after]; exact held, by rw [after]⟩
  | @kept table _ held stale current last stamped answer after opened =>
      exact ⟨table, answer, by rw [after]; exact held, by rw [after]⟩
  | reread stale changed last stamped answer after opened =>
      exact ⟨_, answer, by rw [after], by rw [after]⟩

theorem Got.fresh_of_unstamped (got : moment.Got) (unstamped : moment.stamp? = none) :
    ∃ reading ∈ moment.readings, moment.session.cache.isFresh reading = true := by
  cases got with
  | served held taken fresh unstamped answer after events => exact ⟨_, taken, fresh⟩
  | kept held stale current last stamped answer after opened =>
      rw [unstamped] at stamped
      cases stamped
  | reread stale changed last stamped answer after opened =>
      rw [unstamped] at stamped
      cases stamped

theorem getLast?_of_stamp? {stamp : Seconds} (asked : moment.step = .cachedTable)
    (stamped : moment.stamp? = some stamp) : moment.readings.getLast? = some stamp := by
  by_cases fresh : moment.readings.any moment.session.cache.isFresh = true
  · rw [stamp?_of_fresh asked fresh] at stamped
    cases stamped
  · rw [← stamp?_of_stale asked (Bool.eq_false_iff.mpr fresh)]
    exact stamped

theorem after_of_fill {table : SwitchTable} {offset : Seconds}
    (filled : moment.step = .replaceCachedTable table offset) :
    ∃ now, moment.readings = [now] ∧
      moment.stamp? = some (now.plus moment.session.cache.precision offset) ∧
      moment.after.cache =
        { moment.session.cache with
          table := some table
          checkedAt := some (now.plus moment.session.cache.precision offset) } := by
  obtain ⟨session, step⟩ := moment
  subst filled
  exact ⟨session.state.machine.clock.reading, rfl, rfl, rfl⟩

/-- Steps that do not concern the session's own cache leave it as it is. -/
theorem after_of_other (notStarted : moment.step.startsCache = false)
    (notFilled : moment.step.fillsCache = false) (notAsked : moment.step ≠ .cachedTable) :
    moment.stamp? = none ∧ moment.after.cache = moment.session.cache := by
  obtain ⟨session, step⟩ := moment
  cases step with
  | newCache path timeToLive => cases notStarted
  | replaceCachedTable table offset => cases notFilled
  | cachedTable => exact absurd rfl notAsked
  | _ => exact ⟨rfl, rfl⟩

end Session.Moment

/-! ### From the start to any moment -/

theorem Session.lastStamped_append (past : List Moment) (moment : Moment) :
    lastStamped (past ++ [moment]) =
      (moment.stamp?.map (fun stamp => (moment, stamp))).or (lastStamped past) := by
  unfold lastStamped
  rw [List.filterMap_append, List.getLast?_append]
  cases found : moment.stamp? <;> simp [found]

theorem Session.stamp?_of_lastStamped {past : List Moment} {moment : Moment} {stamp : Seconds}
    (last : lastStamped past = some (moment, stamp)) :
    moment ∈ past ∧ moment.stamp? = some stamp := by
  obtain ⟨other, listed, found⟩ := List.mem_filterMap.mp (List.mem_of_getLast? last)
  obtain ⟨made, stamped, same⟩ := Option.map_eq_some_iff.mp found
  obtain ⟨rfl, rfl⟩ := Prod.mk.inj same
  exact ⟨listed, stamped⟩

/-- The cache has the settings it started with and the latest stamp of the past, and
holds a table just if it holds a stamp. -/
structure Tracks (start : TableCache) (past : List Moment) (cache : TableCache) : Prop where
  path : cache.path = start.path
  timeToLive : cache.timeToLive = start.timeToLive
  precision : cache.precision = start.precision
  stamped : cache.checkedAt = (lastStamped past).map Prod.snd
  paired : cache.table.isSome = cache.checkedAt.isSome

namespace Tracks

variable {start : TableCache} {past : List Moment} {moment : Moment}

theorem after_step (tracks : Tracks start past moment.session.cache)
    (notStarted : moment.step.startsCache = false) :
    Tracks start (past ++ [moment]) moment.after.cache := by
  obtain ⟨path, timeToLive, precision, stamped, paired⟩ := tracks
  have unstamped (none : moment.stamp? = none)
      (after : moment.after.cache = moment.session.cache) :
      Tracks start (past ++ [moment]) moment.after.cache := by
    rw [after]
    refine ⟨path, timeToLive, precision, ?_, paired⟩
    rw [lastStamped_append, none, stamped]
    rfl
  by_cases asked : moment.step = .cachedTable
  · cases Moment.got asked paired with
    | served held taken fresh none answer after events => exact unstamped none after
    | kept held stale current last made answer after opened =>
        rw [after]
        refine ⟨path, timeToLive, precision, ?_, ?_⟩
        · rw [lastStamped_append, made]
          rfl
        · rw [held]
          rfl
    | reread stale changed last made answer after opened =>
        rw [after]
        refine ⟨path, timeToLive, precision, ?_, rfl⟩
        rw [lastStamped_append, made]
        rfl
  · cases filled : moment.step with
    | replaceCachedTable table offset =>
        obtain ⟨now, _, made, after⟩ := Moment.after_of_fill filled
        rw [after]
        refine ⟨path, timeToLive, precision, ?_, rfl⟩
        rw [lastStamped_append, made]
        rfl
    | _ =>
        have notFilled : moment.step.fillsCache = false := by rw [filled]; rfl
        obtain ⟨none, after⟩ := Moment.after_of_other notStarted notFilled asked
        exact unstamped none after

theorem of_moments {session : Session} {steps : List Step} {later : List Moment}
    (new : session.cache.IsNew) (sameCache : ∀ step ∈ steps, step.startsCache = false)
    (cut : moments session steps = past ++ moment :: later) :
    Tracks session.cache past moment.session.cache := by
  refine moments_invariant (fun past reached => Tracks session.cache past reached.cache)
    ?_ ?_ cut
  · refine ⟨rfl, rfl, rfl, new.noStamp, ?_⟩
    rw [new.noTable, new.noStamp]
    rfl
  · intro past moment later cut tracks
    apply tracks.after_step
    apply sameCache
    apply step_mem_of_mem_moments
    rw [cut]
    exact List.mem_append_right past List.mem_cons_self

end Tracks

end ResolverChoice
