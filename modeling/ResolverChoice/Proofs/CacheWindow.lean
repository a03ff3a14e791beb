/-
Windows in which a cache trusts its table.

A stamp opens a window that is as long as the time to live.  Lookups inside it serve the
held table and touch nothing; the first one after it stamps the cache again and looks at
the file.  Since stamps lie at least a window apart, files are not read more often than
once in a window.
-/

import Mathlib.Algebra.Order.Field.Rat
import Mathlib.Tactic.Linarith
import ResolverChoice.Proofs.CacheHistory

namespace ResolverChoice

open Session

/-- What a step that fills the cache adds to the reading. -/
def Step.offset? : Step → Option Seconds
  | .replaceCachedTable _ offset => some offset
  | _ => none

instance (time : Seconds) : Decidable (∃ value, time = .finite value) :=
  match time with
  | .finite value => .isTrue ⟨value, rfl⟩
  | .negativeZero => .isFalse nofun
  | .infinite _ => .isFalse nofun
  | .undefined => .isFalse nofun

namespace Session.Moment

/-- The times that the moment adds or compares are numbers. -/
structure IsExact (moment : Moment) : Prop where
  readings : ∀ reading ∈ moment.readings, ∃ value, reading = .finite value
  offset : ∀ offset ∈ moment.step.offset?, ∃ value, offset = .finite value

instance (moment : Moment) : Decidable moment.IsExact :=
  decidable_of_iff
    ((∀ reading ∈ moment.readings, ∃ value, reading = .finite value) ∧
      ∀ offset ∈ moment.step.offset?, ∃ value, offset = .finite value)
    ⟨fun ⟨readings, offset⟩ => ⟨readings, offset⟩, fun ⟨readings, offset⟩ => ⟨readings, offset⟩⟩

/-- The held table is served, the cache stays as it was, and nothing but readings of the
clock is left in the trace. -/
structure ServesHeld (moment : Moment) : Prop where
  answer : ∃ table, moment.session.cache.table = some table ∧
    moment.answer = .ok (.table table)
  cache : moment.after.cache = moment.session.cache
  events : moment.events = moment.readings.map .clockRead

/-- The cache is stamped with the reading behind the lock, and the file is opened once
unless it has the modification time of the held table. -/
structure ChecksFile (moment : Moment) : Prop where
  stamp : ∃ now, moment.readings.getLast? = some now ∧ moment.stamp? = some now ∧
    moment.after.cache.checkedAt = some now
  unchanged : ∀ table, moment.session.cache.table = some table →
    TableCache.isCurrent table moment.machine moment.session.cache.path = true →
      moment.opened = [] ∧ moment.answer = .ok (.table table) ∧
        moment.after.cache.table = some table
  changed : (∀ table, moment.session.cache.table = some table →
      TableCache.isCurrent table moment.machine moment.session.cache.path = false) →
    moment.opened = [moment.session.cache.path] ∧
      moment.answer = .ok (.table (moment.machine.tableAt moment.session.cache.path)) ∧
        moment.after.cache.table = some (moment.machine.tableAt moment.session.cache.path)

/-- Whether the moment is a lookup that opens a file. -/
def looksAndOpens (moment : Moment) : Bool :=
  match moment.step with
  | .cachedTable => !moment.opened.isEmpty
  | _ => false

end Session.Moment

/-- What a moment does to the cache, by the latest stamp of its past. -/
structure FollowsWindow (timeToLive : Rat) (past : List Moment) (moment : Moment) : Prop where
  paired : moment.session.cache.table.isSome = moment.session.cache.checkedAt.isSome
  pairedAfter : moment.after.cache.table.isSome = moment.after.cache.checkedAt.isSome
  stamp : moment.session.cache.checkedAt = (lastStamped past).map Prod.snd
  fill : ∀ table offset, moment.step = .replaceCachedTable table (.finite offset) →
    ∃ now : Rat, moment.readings = [.finite now] ∧
      moment.stamp? = some (.finite (now + offset)) ∧
      moment.after.cache.table = some table ∧
      moment.after.cache.checkedAt = some (.finite (now + offset))
  inside : moment.step = .cachedTable → ∀ check stamp reading,
    lastStamped past = some (check, .finite stamp) → .finite reading ∈ moment.readings →
      reading - stamp < timeToLive → moment.ServesHeld
  outside : moment.step = .cachedTable → (∀ check stamp reading,
    lastStamped past = some (check, .finite stamp) → .finite reading ∈ moment.readings →
      timeToLive ≤ reading - stamp) → moment.ChecksFile
  other : moment.step.fillsCache = false → moment.step ≠ .cachedTable →
    moment.stamp? = none ∧ moment.after.cache = moment.session.cache

/-- The stamps that the moments make are numbers, and each lies a window or more after
those before it. -/
def SpacedStamps (window : Rat) (run : List Moment) : Prop :=
  ∃ times : List Rat, run.filterMap Moment.stamp? = times.map .finite ∧
    times.Pairwise (fun earlier later => earlier + window ≤ later)

/-! ### Lists of spaced times -/

/-- Times that lie a window apart take all windows between the first and the last. -/
theorem length_mul_le_of_pairwise {window first last : Rat} {times : List Rat}
    (spaced : (first :: times).Pairwise (fun earlier later => earlier + window ≤ later))
    (ends : (first :: times).getLast? = some last) :
    (times.length : Rat) * window ≤ last - first := by
  induction times generalizing first with
  | nil =>
      obtain rfl : first = last := Option.some.inj ends
      simp only [List.length_nil, Nat.cast_zero, zero_mul, sub_self, le_refl]
  | cons second rest ih =>
      rw [List.pairwise_cons] at spaced
      rw [List.getLast?_cons_cons] at ends
      have step := spaced.1 second List.mem_cons_self
      have others := ih spaced.2 ends
      rw [List.length_cons, Nat.cast_succ, add_mul, one_mul]
      linarith

/-- A time a window after the last of spaced times is a window after all of them. -/
theorem pairwise_concat {window next : Rat} {times : List Rat} (nonneg : 0 ≤ window)
    (spaced : times.Pairwise (fun earlier later => earlier + window ≤ later))
    (beyond : ∀ last, times.getLast? = some last → last + window ≤ next) :
    (times ++ [next]).Pairwise (fun earlier later => earlier + window ≤ later) := by
  refine List.pairwise_append.mpr ⟨spaced, List.pairwise_singleton _ _, ?_⟩
  intro earlier member other single
  obtain rfl : other = next := List.mem_singleton.mp single
  cases ends : times.getLast? with
  | none =>
      rw [List.getLast?_eq_none_iff.mp ends] at member
      cases member
  | some last =>
      have final := beyond last ends
      obtain ⟨front, rfl⟩ := List.getLast?_eq_some_iff.mp ends
      rcases List.mem_append.mp member with before | same
      · have gap := (List.pairwise_append.mp spaced).2.2 earlier before last List.mem_cons_self
        linarith
      · rw [List.mem_singleton.mp same]
        exact final

/-! ### Exact stamps -/

section

variable {past : List Moment} {moment : Moment} {timeToLive : Rat}

theorem lastStamped_snd (past : List Moment) :
    (lastStamped past).map Prod.snd = (past.filterMap Moment.stamp?).getLast? := by
  unfold lastStamped
  rw [← List.getLast?_map, List.map_filterMap]
  congr 2
  funext moment
  rw [Option.map_map]
  exact Option.map_id_apply

theorem finite_of_stamp? (numbers : moment.IsExact)
    (exactly : moment.session.cache.precision = .exact) {stamp : Seconds}
    (stamped : moment.stamp? = some stamp) : ∃ value, stamp = .finite value := by
  unfold Moment.stamp? at stamped
  split at stamped
  · split at stamped
    · cases stamped
    · exact numbers.readings stamp (List.mem_of_getLast? stamped)
  · rename_i table offset step
    obtain ⟨reading, last, rfl⟩ := Option.map_eq_some_iff.mp stamped
    obtain ⟨now, rfl⟩ := numbers.readings reading (List.mem_of_getLast? last)
    obtain ⟨extra, rfl⟩ := numbers.offset offset (by rw [step]; rfl)
    exact ⟨now + extra, by rw [exactly, Seconds.plus_exact]⟩
  · cases stamped

theorem isFresh_finite_iff {cache : TableCache} {stamp reading : Rat}
    (exactly : cache.precision = .exact) (life : cache.timeToLive = .finite timeToLive)
    (stamped : cache.checkedAt = some (.finite stamp)) :
    cache.isFresh (.finite reading) = true ↔ reading - stamp < timeToLive := by
  unfold TableCache.isFresh
  rw [stamped, exactly, life]
  dsimp only
  rw [Seconds.minus_exact, Seconds.isLess_finite, decide_eq_true_eq]

/-! ### One moment -/

variable {start : TableCache}

theorem servesHeld_of_fresh (got : moment.Got) {reading : Seconds}
    (taken : reading ∈ moment.readings)
    (fresh : moment.session.cache.isFresh reading = true) : moment.ServesHeld := by
  cases got with
  | served held _ _ unstamped answer after events => exact ⟨⟨_, held, answer⟩, after, events⟩
  | kept held stale current last stamped answer after opened =>
      rw [stale reading taken] at fresh
      cases fresh
  | reread stale changed last stamped answer after opened =>
      rw [stale reading taken] at fresh
      cases fresh

theorem checksFile_of_stale (got : moment.Got)
    (stale : ∀ reading ∈ moment.readings, moment.session.cache.isFresh reading ≠ true) :
    moment.ChecksFile := by
  cases got with
  | served held taken fresh unstamped answer after events => exact absurd fresh (stale _ taken)
  | @kept table now held _ current last stamped answer after opened =>
      refine ⟨⟨now, last, stamped, by rw [after]⟩, ?_, ?_⟩
      · intro other found _
        obtain rfl : table = other := Option.some.inj (held.symm.trans found)
        exact ⟨opened, answer, by rw [after]; exact held⟩
      · intro changed
        rw [changed table held] at current
        cases current
  | @reread now _ changed last stamped answer after opened =>
      refine ⟨⟨now, last, stamped, by rw [after]⟩, ?_, ?_⟩
      · intro table held current
        rw [changed table held] at current
        cases current
      · exact fun _ => ⟨opened, answer, by rw [after]⟩

theorem Tracks.followsWindow (tracks : Tracks start past moment.session.cache)
    (exactly : start.precision = .exact) (life : start.timeToLive = .finite timeToLive)
    (notStarted : moment.step.startsCache = false) (numbers : moment.IsExact)
    (stamps : ∀ check stamp, lastStamped past = some (check, stamp) →
      ∃ value, stamp = .finite value) : FollowsWindow timeToLive past moment where
  paired := tracks.paired
  pairedAfter := (tracks.after_step notStarted).paired
  stamp := tracks.stamped
  fill := by
    intro table offset filled
    obtain ⟨reading, readings, stamped, after⟩ := Moment.after_of_fill filled
    have taken : reading ∈ moment.readings := by rw [readings]; exact List.mem_cons_self
    obtain ⟨now, rfl⟩ := numbers.readings reading taken
    rw [tracks.precision, exactly, Seconds.plus_exact] at stamped after
    exact ⟨now, readings, stamped, by rw [after], by rw [after]⟩
  inside := by
    intro asked check stamp reading last taken less
    have held := tracks.stamped
    rw [last] at held
    exact servesHeld_of_fresh (Moment.got asked tracks.paired) taken
      ((isFresh_finite_iff (tracks.precision.trans exactly)
        (tracks.timeToLive.trans life) held).mpr less)
  outside := by
    intro asked beyond
    refine checksFile_of_stale (Moment.got asked tracks.paired) ?_
    intro reading taken fresh
    have held := tracks.stamped
    cases last : lastStamped past with
    | none =>
        rw [last] at held
        rw [TableCache.isFresh_of_unchecked held] at fresh
        cases fresh
    | some entry =>
        obtain ⟨check, stamp⟩ := entry
        obtain ⟨stamp, rfl⟩ := stamps check stamp last
        obtain ⟨reading, rfl⟩ := numbers.readings reading taken
        rw [last] at held
        have less := (isFresh_finite_iff (tracks.precision.trans exactly)
          (tracks.timeToLive.trans life) held).mp fresh
        exact absurd (beyond check stamp reading last taken) (not_le.mpr less)
  other := fun notFilled notAsked => Moment.after_of_other notStarted notFilled notAsked

/-- A lookup that stamps the cache does so a window or more after the latest stamp. -/
theorem Tracks.stamp_beyond (tracks : Tracks start past moment.session.cache)
    (exactly : start.precision = .exact) (life : start.timeToLive = .finite timeToLive)
    (asked : moment.step = .cachedTable) {check : Moment} {stamp now : Rat}
    (last : lastStamped past = some (check, .finite stamp))
    (stamped : moment.stamp? = some (.finite now)) : stamp + timeToLive ≤ now := by
  by_contra less
  have held := tracks.stamped
  rw [last] at held
  have taken := List.mem_of_getLast? (Moment.getLast?_of_stamp? asked stamped)
  have fresh := (isFresh_finite_iff (tracks.precision.trans exactly)
    (tracks.timeToLive.trans life) held).mpr (sub_lt_iff_lt_add'.mpr (not_le.mp less))
  rw [Moment.stamp?_of_fresh asked (List.any_eq_true.mpr ⟨_, taken, fresh⟩)] at stamped
  cases stamped

end

/-! ### Runs -/

section

variable {start : Session} {steps : List Step} {timeToLive : Rat} {past later : List Moment}
  {moment : Moment}

theorem finite_of_mem_moments (new : start.cache.IsNew)
    (exactly : start.cache.precision = .exact)
    (sameCache : ∀ step ∈ steps, step.startsCache = false)
    (numbers : ∀ moment ∈ moments start steps, moment.IsExact)
    (member : moment ∈ moments start steps) {stamp : Seconds}
    (stamped : moment.stamp? = some stamp) : ∃ value, stamp = .finite value := by
  obtain ⟨past, later, cut⟩ := List.mem_iff_append.mp member
  have tracks := Tracks.of_moments new sameCache cut
  exact finite_of_stamp? (numbers moment member) (tracks.precision.trans exactly) stamped

theorem followsWindow_of_moments (new : start.cache.IsNew)
    (exactly : start.cache.precision = .exact) (life : start.cache.timeToLive = .finite timeToLive)
    (sameCache : ∀ step ∈ steps, step.startsCache = false)
    (numbers : ∀ moment ∈ moments start steps, moment.IsExact)
    (cut : moments start steps = past ++ moment :: later) :
    FollowsWindow timeToLive past moment := by
  have member : moment ∈ moments start steps := by
    rw [cut]
    exact List.mem_append_right past List.mem_cons_self
  refine (Tracks.of_moments new sameCache cut).followsWindow exactly life
    (sameCache _ (step_mem_of_mem_moments member)) (numbers moment member) ?_
  intro check stamp last
  obtain ⟨listed, stamped⟩ := stamp?_of_lastStamped last
  refine finite_of_mem_moments new exactly sameCache numbers ?_ stamped
  rw [cut]
  exact List.mem_append_left _ listed

theorem stamps_spaced (new : start.cache.IsNew)
    (exactly : start.cache.precision = .exact) (life : start.cache.timeToLive = .finite timeToLive)
    (nonneg : 0 ≤ timeToLive)
    (lookups : ∀ step ∈ steps, step.startsCache = false ∧ step.fillsCache = false)
    (numbers : ∀ moment ∈ moments start steps, moment.IsExact) :
    SpacedStamps timeToLive (moments start steps) := by
  have sameCache : ∀ step ∈ steps, step.startsCache = false :=
    fun step member => (lookups step member).1
  refine (moments_invariant_end (fun past _ => SpacedStamps timeToLive past) ?_ ?_).elim
    (fun _ spaced => spaced)
  · exact ⟨[], rfl, List.Pairwise.nil⟩
  · rintro past moment later cut ⟨times, stamps, spaced⟩
    have member : moment ∈ moments start steps := by
      rw [cut]
      exact List.mem_append_right past List.mem_cons_self
    have tracks := Tracks.of_moments new sameCache cut
    obtain ⟨notStarted, notFilled⟩ := lookups _ (step_mem_of_mem_moments member)
    cases stamped : moment.stamp? with
    | none =>
        refine ⟨times, ?_, spaced⟩
        rw [List.filterMap_append, stamps, List.filterMap_cons_none stamped,
          List.filterMap_nil, List.append_nil]
    | some stamp =>
        -- Nothing fills the cache, so a stamp is made by a lookup that no reading finds fresh.
        obtain ⟨now, rfl⟩ := finite_of_mem_moments new exactly sameCache numbers member stamped
        have asked : moment.step = .cachedTable := by
          by_contra notAsked
          rw [(Moment.after_of_other notStarted notFilled notAsked).1] at stamped
          cases stamped
        refine ⟨times ++ [now], ?_, pairwise_concat nonneg spaced ?_⟩
        · rw [List.filterMap_append, stamps, List.filterMap_cons_some stamped,
            List.filterMap_nil, List.map_append]
          rfl
        · intro last ends
          have latest := lastStamped_snd past
          rw [stamps, List.getLast?_map, ends] at latest
          obtain ⟨⟨check, stamp⟩, found, same⟩ := Option.map_eq_some_iff.mp latest
          obtain rfl : stamp = .finite last := same
          exact tracks.stamp_beyond exactly life asked found stamped

/-- A lookup that opens a file stamps the cache with its last reading. -/
theorem stamp?_of_looksAndOpens {start : TableCache}
    (tracks : Tracks start past moment.session.cache) (opens : moment.looksAndOpens = true) :
    ∃ now, moment.stamp? = some now ∧ moment.readings.getLast? = some now := by
  unfold Moment.looksAndOpens at opens
  split at opens
  · rename_i asked
    cases Moment.got asked tracks.paired with
    | served held taken fresh unstamped answer after events =>
        rw [← List.append_nil (moment.readings.map _)] at events
        rw [Moment.opened_of_events events] at opens
        cases opens
    | @kept _ now held stale current last stamped answer after opened =>
        exact ⟨now, stamped, last⟩
    | @reread now stale changed last stamped answer after opened =>
        exact ⟨now, stamped, last⟩
  · cases opens

/-- Where two partial functions give the same for every item, mapping by one lists what
filtering by the other keeps. -/
theorem map_eq_map_some_filterMap {α β : Type} {first second : α → Option β} {items : List α}
    (same : ∀ item ∈ items, ∃ value, second item = some value ∧ first item = some value) :
    items.map first = (items.filterMap second).map some := by
  induction items with
  | nil => rfl
  | cons item rest ih =>
      obtain ⟨value, kept, mapped⟩ := same item List.mem_cons_self
      rw [List.map_cons, List.filterMap_cons_some kept, List.map_cons, mapped,
        ih (fun other member => same other (List.mem_cons_of_mem item member))]

theorem opening_readings_spaced (new : start.cache.IsNew)
    (sameCache : ∀ step ∈ steps, step.startsCache = false)
    (spaced : SpacedStamps timeToLive (moments start steps)) :
    ∃ times : List Rat,
      ((moments start steps).filter Moment.looksAndOpens).map
          (fun moment => moment.readings.getLast?) =
        times.map (fun time => some (.finite time)) ∧
      times.Pairwise (fun earlier later => earlier + timeToLive ≤ later) := by
  obtain ⟨stampTimes, stamps, spaced⟩ := spaced
  have kept : (((moments start steps).filter Moment.looksAndOpens).filterMap
      Moment.stamp?).Sublist (stampTimes.map .finite) := by
    rw [← stamps]
    exact List.filter_sublist.filterMap _
  obtain ⟨times, part, same⟩ := List.sublist_map_iff.mp kept
  refine ⟨times, ?_, spaced.sublist part⟩
  rw [map_eq_map_some_filterMap, same, List.map_map]
  · rfl
  · intro moment member
    obtain ⟨listed, opens⟩ := List.mem_filter.mp member
    obtain ⟨past, later, cut⟩ := List.mem_iff_append.mp listed
    exact stamp?_of_looksAndOpens (Tracks.of_moments new sameCache cut) opens

/-- In every run each moment follows the window that the latest stamp opened.  Hence in a
run of lookups that reads the file `k` times, the last of these readings comes at least
`k - 1` times the time to live after the first. -/
theorem lookups_follow_windows (new : start.cache.IsNew)
    (exactly : start.cache.precision = .exact) (life : start.cache.timeToLive = .finite timeToLive)
    (sameCache : ∀ step ∈ steps, step.startsCache = false)
    (numbers : ∀ moment ∈ moments start steps, moment.IsExact) :
    (∀ past moment later, moments start steps = past ++ moment :: later →
      FollowsWindow timeToLive past moment) ∧
    (0 < timeToLive → (∀ step ∈ steps, step.fillsCache = false) →
      ∃ times : List Rat,
        ((moments start steps).filter Moment.looksAndOpens).map
            (fun moment => moment.readings.getLast?) =
          times.map (fun time => some (.finite time)) ∧
        ∀ first ∈ times.head?, ∀ last ∈ times.getLast?,
          ((times.length - 1 : Nat) : Rat) * timeToLive ≤ last - first) := by
  refine ⟨fun past moment later => followsWindow_of_moments new exactly life sameCache numbers,
    ?_⟩
  intro positive notFilled
  obtain ⟨times, readings, spaced⟩ := opening_readings_spaced new sameCache
    (stamps_spaced new exactly life positive.le
      (fun step member => ⟨sameCache step member, notFilled step member⟩) numbers)
  refine ⟨times, readings, ?_⟩
  intro first starts last ends
  cases times with
  | nil => cases starts
  | cons head rest =>
      obtain rfl : head = first := Option.some.inj starts
      exact length_mul_le_of_pairwise spaced ends

/-- The first lookup opens the file.  The second falls into its window, the third finds
the file unchanged, and the last opens the file again, which has been edited. -/
def windowSteps : List Step :=
  let file (line : String) (modified : Seconds) : FileNode :=
    { FileNode.ofLines [line] with modified := modified }
  [.writeFile SwitchTable.standardPath (file "hosts: files" 1), .cachedTable, .cachedTable,
    .cachedTable, .writeFile SwitchTable.standardPath (file "hosts: dns" 2), .cachedTable]

def windowStart : Session where
  state := { machine := { clock := { reading := 1000, later := [1004, 1006, 1006, 1012] } } }
  cache := { precision := .exact }

theorem edited_file_opened_after_window :
    (∀ past moment later,
      moments windowStart (.replaceCachedTable {} 2 :: windowSteps) =
          past ++ moment :: later →
        FollowsWindow 5 past moment) ∧
    ∃ times : List Rat,
      [some 1000, some 1012] = times.map (fun time => some (Seconds.finite time)) ∧
      ∀ first ∈ times.head?, ∀ last ∈ times.getLast?,
        ((times.length - 1 : Nat) : Rat) * 5 ≤ last - first := by
  refine ⟨(@lookups_follow_windows windowStart (.replaceCachedTable {} 2 :: windowSteps) 5
    ⟨rfl, rfl⟩ rfl rfl (by decide) (by decide +kernel)).1, ?_⟩
  obtain ⟨times, readings, bound⟩ := (@lookups_follow_windows windowStart windowSteps 5
    ⟨rfl, rfl⟩ rfl rfl (by decide) (by decide +kernel)).2 (by decide) (by decide)
  refine ⟨times, Eq.trans ?_ readings, bound⟩
  decide +kernel

end

end ResolverChoice
