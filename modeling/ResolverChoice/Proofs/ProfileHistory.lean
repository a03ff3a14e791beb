/-
The profile of a session, from its start to any moment of a run.

A moment that asks for the profile builds it if none is held.  So the profile that is held
is the one that was built at the first such moment since the last reset whose build gave
one, on the machine as it was then.  Every moment that asks is answered under it, and the
settings are not opened again while it is held.  A build that fails leaves nothing.
-/

import Mathlib.Data.List.DropRight
import ResolverChoice.Proofs.ProfileCourse

namespace ResolverChoice

open ResolverState

namespace Step

/-- Whether the step needs the program's profile. -/
def asksProfile : Step → Bool
  | .profile => true
  | .profiles callers => callers != 0
  | .route _ _ => true
  | .allowsNative => true
  | _ => false

def resetsProfile : Step → Bool
  | .resetProfile => true
  | _ => false

theorem eq_of_resetsProfile {step : Step} (resets : step.resetsProfile = true) :
    step = .resetProfile := by
  cases step with
  | resetProfile => rfl
  | _ => cases resets

/-- What a step that needs a profile answers if there is none. -/
def refusal (fault : Fault) : Step → Except Fault Answer
  | .profiles callers => .ok (.generations (List.replicate callers (.error fault)))
  | _ => .error fault

end Step

namespace Session

/-! ### The profile of a past -/

/-- The profile that the moment would build, if it asks for one. -/
def Moment.builds? (moment : Moment) : Option Profile :=
  if moment.step.asksProfile then
    match moment.machine.buildNow with
    | .error _ => none
    | .ok profile => some profile
  else none

/-- The moments since the latest reset. -/
def sinceReset (past : List Moment) : List Moment :=
  past.rtakeWhile (fun moment => !moment.step.resetsProfile)

/-- The profile of the first moment since the latest reset that asked for one and could
build it. -/
def currentProfile? (past : List Moment) : Option Profile :=
  (sinceReset past).findSome? Moment.builds?

section

variable {past : List Moment} {moment : Moment}

theorem currentProfile?_of_reset (reset : moment.step.resetsProfile = true) :
    currentProfile? (past ++ [moment]) = none := by
  unfold currentProfile? sinceReset
  rw [List.rtakeWhile_concat_neg, List.findSome?_nil]
  rw [reset]
  decide

theorem currentProfile?_of_other (other : moment.step.resetsProfile = false) :
    currentProfile? (past ++ [moment]) = (currentProfile? past).or moment.builds? := by
  unfold currentProfile? sinceReset
  rw [List.rtakeWhile_concat_pos, List.findSome?_append, List.findSome?_singleton]
  rw [other]
  rfl

end

/-! ### Single moments -/

namespace Moment

variable (moment : Moment)

/-- The state that the step works on: the trace of earlier steps is forgotten. -/
def found : ResolverState :=
  { moment.session.state with machine := { moment.machine with trace := [] } }

/-- The moment is answered under the profile, and does to the switch table's cache what
the lookup alone would have done. -/
inductive Uses (moment : Moment) (built : BuiltProfile) : Prop where
  | profile (asked : moment.step = .profile)
      (answer : moment.answer = .ok (.profile built))
      (tables : moment.after.state.tables = moment.session.state.tables)
  | callers {count : Nat} (asked : moment.step = .profiles count)
      (answer : moment.answer =
        .ok (.generations (List.replicate count (.ok built.generation))))
      (tables : moment.after.state.tables = moment.session.state.tables)
  | route {host : Text} {options : Option LookupOptions}
      (asked : moment.step = .route host options)
      (answer : moment.answer =
        .ok (.route ((route built.profile host options).run moment.session.state).1))
      (tables : moment.after.state.tables =
        ((ResolverState.route built.profile host options).run moment.session.state).2.tables)
  | allowsNative (asked : moment.step = .allowsNative)
      (answer : moment.answer =
        .ok (.truth ((allowsNative built.profile).run moment.session.state).1))
      (tables : moment.after.state.tables =
        ((ResolverState.allowsNative built.profile).run moment.session.state).2.tables)

/-- How the moment goes on once it was given a profile or a fault. -/
inductive Asks (moment : Moment) (result : Except Fault BuiltProfile)
    (ready : ResolverState) : Prop where
  | profile (asked : moment.step = .profile)
      (answer : moment.answer = result.map .profile)
      (after : moment.after.state = ready)
  | callers {others : Nat} (asked : moment.step = .profiles (others + 1))
      (answer : moment.answer = .ok (.generations
        (List.replicate (others + 1) (result.map BuiltProfile.generation))))
      (after : moment.after.state = ready)
  | route {host : Text} {options : Option LookupOptions}
      (asked : moment.step = .route host options)
      (answer : moment.answer =
        (askUnder (route · host options) (result.map BuiltProfile.profile) ready).1.map .route)
      (after : moment.after.state =
        (askUnder (ResolverState.route · host options) (result.map BuiltProfile.profile)
          ready).2)
  | allowsNative (asked : moment.step = .allowsNative)
      (answer : moment.answer =
        (askUnder allowsNative (result.map BuiltProfile.profile) ready).1.map .truth)
      (after : moment.after.state =
        (askUnder ResolverState.allowsNative (result.map BuiltProfile.profile) ready).2)

variable {moment}

theorem asks_of_asksProfile (asks : moment.step.asksProfile = true) :
    ∃ result ready, ProfileCourse moment.found result ready ∧ moment.Asks result ready := by
  have course := systemProfile_course moment.found
  cases asked : moment.step with
  | profile =>
      obtain ⟨session, step⟩ := moment
      subst asked
      exact ⟨_, _, course, .profile rfl rfl rfl⟩
  | profiles callers =>
      cases callers with
      | zero =>
          rw [asked] at asks
          cases asks
      | succ others =>
          obtain ⟨result, ready, course, run⟩ := generations_course others moment.found
          obtain ⟨session, step⟩ := moment
          subst asked
          refine ⟨result, ready, course, .callers rfl ?_ ?_⟩
          · exact congrArg (fun run => Except.ok (Answer.generations run.1)) run
          · exact congrArg Prod.snd run
  | route host options =>
      have run := run_systemProfile_bind (route · host options) moment.found
      obtain ⟨session, step⟩ := moment
      subst asked
      refine ⟨_, _, course, .route rfl ?_ ?_⟩
      · exact congrArg (fun run => run.1.map Answer.route) run
      · exact congrArg Prod.snd run
  | allowsNative =>
      have run := run_systemProfile_bind allowsNative moment.found
      obtain ⟨session, step⟩ := moment
      subst asked
      refine ⟨_, _, course, .allowsNative rfl ?_ ?_⟩
      · exact congrArg (fun run => run.1.map Answer.truth) run
      · exact congrArg Prod.snd run
  | _ =>
      rw [asked] at asks
      cases asks

theorem Asks.continues {result : Except Fault BuiltProfile} {ready : ResolverState}
    (asks : moment.Asks result ready) : ready.Continues moment.after.state := by
  cases asks with
  | profile asked answer after =>
      rw [after]
      exact .refl ready
  | callers asked answer after =>
      rw [after]
      exact .refl ready
  | @route host options asked answer after =>
      rw [after]
      exact continues_askUnder (fun profile => continues_route profile host options) _ _
  | allowsNative asked answer after =>
      rw [after]
      exact continues_askUnder continues_allowsNative _ _

/-- A lookup cannot tell the state that was found from the one in which it is made. -/
theorem looksUpLike_of_course {result : Except Fault BuiltProfile} {ready : ResolverState}
    (course : ProfileCourse moment.found result ready) :
    ready.LooksUpLike moment.session.state := by
  have like := course.looksUpLike
  exact ⟨like.tables, like.machine.file, like.machine.clock, like.machine.hostName⟩

theorem Asks.uses {built : BuiltProfile} {ready : ResolverState}
    (asks : moment.Asks (.ok built) ready) (course : ProfileCourse moment.found (.ok built) ready) :
    moment.Uses built := by
  have like := looksUpLike_of_course course
  cases asks with
  | profile asked answer after => exact .profile asked answer (by rw [after, like.tables])
  | callers asked answer after => exact .callers asked answer (by rw [after, like.tables])
  | @route host options asked answer after =>
      have same := like.route built.profile host options
      refine .route asked ?_ ?_
      · rw [answer, ← same.answer]
        rfl
      · rw [after, ← same.tables]
        rfl
  | allowsNative asked answer after =>
      have same := like.allowsNative built.profile
      refine .allowsNative asked ?_ ?_
      · rw [answer, ← same.answer]
        rfl
      · rw [after, ← same.tables]
        rfl

theorem Asks.refused {fault : Fault} {ready : ResolverState}
    (asks : moment.Asks (.error fault) ready) :
    moment.answer = moment.step.refusal fault ∧ moment.after.state = ready := by
  cases asks with
  | profile asked answer after =>
      rw [asked]
      exact ⟨answer, after⟩
  | callers asked answer after =>
      rw [asked]
      exact ⟨answer, after⟩
  | route asked answer after =>
      rw [asked]
      exact ⟨answer, after⟩
  | allowsNative asked answer after =>
      rw [asked]
      exact ⟨answer, after⟩

/-- The three ways of a moment that asks for the profile. -/
inductive Served (moment : Moment) : Prop where
  | kept {built : BuiltProfile} (held : moment.session.state.built = some built)
      (uses : moment.Uses built) (after : moment.after.state.built = some built)
      (opened : ∀ path ∈ moment.opened, path = moment.session.state.tables.path)
  | made {built : BuiltProfile} (empty : moment.session.state.built = none)
      (given : moment.machine.buildNow = .ok built.profile)
      (uses : moment.Uses built) (after : moment.after.state.built = some built)
  | refused {fault : Fault} (empty : moment.session.state.built = none)
      (refused : moment.machine.buildNow = .error fault)
      (answer : moment.answer = moment.step.refusal fault)
      (after : moment.after.state.built = none)
      (tables : moment.after.state.tables = moment.session.state.tables)
      (clock : moment.after.state.machine.clock = moment.machine.clock)
      (unread : moment.readings = [])

theorem buildNow_found (moment : Moment) :
    moment.found.machine.buildNow = moment.machine.buildNow :=
  Machine.SameWorld.buildNow ⟨rfl, rfl, rfl, rfl, rfl⟩

theorem served_of_asksProfile (asking : moment.step.asksProfile = true) :
    moment.Served ∧ moment.after.state.tables.path = moment.session.state.tables.path := by
  obtain ⟨result, ready, course, asks⟩ := asks_of_asksProfile asking
  have continues := asks.continues
  refine ⟨?_, continues.path.trans (congrArg TableCache.path course.looksUpLike.tables)⟩
  cases result with
  | ok built =>
      have uses := asks.uses course
      cases course with
      | kept held =>
          refine .kept held uses (continues.built.trans held) ?_
          intro path opened
          exact (continues.opened path opened).resolve_left List.not_mem_nil
      | made empty given quiet =>
          exact .made empty ((buildNow_found moment).symm.trans given) uses continues.built
  | error fault =>
      obtain ⟨answer, after⟩ := asks.refused
      have tables := course.looksUpLike.tables
      have clock := course.looksUpLike.machine.clock
      rw [← after] at tables clock
      cases course with
      | @failed _ events empty refused quiet =>
          refine .refused empty ((buildNow_found moment).symm.trans refused) answer ?_ tables
            clock ?_
          · rw [after]
            exact empty
          · change moment.after.state.machine.trace.filterMap Event.reading? = []
            rw [after]
            exact reading?_eq_nil_of_opensOrTells quiet

/-- A reset forgets the profile, and nothing else happens. -/
theorem after_of_reset (reset : moment.step = .resetProfile) :
    moment.answer = .ok .nothing ∧ moment.events = [] ∧
      moment.after.state = { moment.found with built := none } := by
  obtain ⟨session, step⟩ := moment
  subst reset
  exact ⟨rfl, rfl, rfl⟩

/-- Steps that have nothing to do with the profile leave it as it is, and open the file of
the switch table at most, unless they look into the session's own cache. -/
theorem after_of_unasked (unasked : moment.step.asksProfile = false)
    (notReset : moment.step.resetsProfile = false) :
    moment.after.state.built = moment.session.state.built ∧
      moment.after.state.tables.path = moment.session.state.tables.path ∧
      (moment.step ≠ .cachedTable →
        ∀ path ∈ moment.opened, path = moment.session.state.tables.path) := by
  obtain ⟨session, step⟩ := moment
  cases step with
  | profile => cases unasked
  | route host options => cases unasked
  | allowsNative => cases unasked
  | resetProfile => cases notReset
  | profiles callers =>
      cases callers with
      | zero => exact ⟨rfl, rfl, fun _ _ opened => nomatch opened⟩
      | succ others => cases unasked
  | table =>
      have continues := continues_systemTable (Moment.found ⟨session, .table⟩)
      refine ⟨continues.built, continues.path, ?_⟩
      intro _ path opened
      exact (continues.opened path opened).resolve_left List.not_mem_nil
  | cachedTable => exact ⟨rfl, rfl, fun other => absurd rfl other⟩
  | _ => exact ⟨rfl, rfl, fun _ _ opened => nomatch opened⟩

theorem builds?_of_unasked (unasked : moment.step.asksProfile = false) :
    moment.builds? = none := by
  unfold builds?
  rw [unasked, if_neg Bool.false_ne_true]

theorem builds?_of_given {profile : Profile} (asking : moment.step.asksProfile = true)
    (given : moment.machine.buildNow = .ok profile) : moment.builds? = some profile := by
  unfold builds?
  rw [asking, if_pos rfl, given]

theorem builds?_of_refused {fault : Fault} (refused : moment.machine.buildNow = .error fault) :
    moment.builds? = none := by
  unfold builds?
  rw [refused, ite_self]

end Moment

/-! ### From the start to any moment -/

/-- The profile that is held is the current one of the past. -/
structure HoldsProfile (path : String) (past : List Moment) (session : Session) : Prop where
  held : session.state.built.map (·.profile) = currentProfile? past
  path : session.state.tables.path = path

namespace HoldsProfile

variable {path : String} {past : List Moment} {moment : Moment}

theorem after_step (holds : HoldsProfile path past moment.session) :
    HoldsProfile path (past ++ [moment]) moment.after := by
  obtain ⟨held, samePath⟩ := holds
  cases resets : moment.step.resetsProfile with
  | true =>
      obtain ⟨_, _, after⟩ := Moment.after_of_reset (Step.eq_of_resetsProfile resets)
      constructor
      · rw [currentProfile?_of_reset resets, after]
        rfl
      · rw [after]
        exact samePath
  | false =>
      rw [← samePath]
      cases asking : moment.step.asksProfile with
      | false =>
          obtain ⟨built, laterPath, _⟩ := Moment.after_of_unasked asking resets
          refine ⟨?_, laterPath⟩
          rw [currentProfile?_of_other resets, Moment.builds?_of_unasked asking, Option.or_none,
            built, held]
      | true =>
          obtain ⟨served, laterPath⟩ := Moment.served_of_asksProfile asking
          refine ⟨?_, laterPath⟩
          rw [currentProfile?_of_other resets, ← held]
          cases served with
          | kept before uses after opened =>
              rw [before, after]
              rfl
          | made empty given uses after =>
              rw [empty, after, Moment.builds?_of_given asking given]
              rfl
          | refused empty refused answer after tables clock unread =>
              rw [empty, after, Moment.builds?_of_refused refused]
              rfl

theorem of_moments {session : Session} {steps : List Step} {later : List Moment}
    (empty : session.state.built = none) (cut : moments session steps = past ++ moment :: later) :
    HoldsProfile session.state.tables.path past moment.session := by
  refine moments_invariant (HoldsProfile session.state.tables.path) ?_ ?_ cut
  · exact ⟨congrArg (Option.map _) empty, rfl⟩
  · intro past moment later _ holds
    exact holds.after_step

end HoldsProfile

/-- What the past says of a moment.  If it asks for the profile it uses the current one, the
one that is held if any is, and otherwise it is refused and leaves everything as it was.
The settings are not opened while there is a current profile. -/
structure KeepsProfile (past : List Moment) (moment : Moment) : Prop where
  used : ∀ profile, moment.step.asksProfile = true →
    currentProfile? (past ++ [moment]) = some profile →
      ∃ built : BuiltProfile, built.profile = profile ∧ moment.Uses built ∧
        moment.after.state.built = some built ∧
        ∀ other, moment.session.state.built = some other → other = built
  unopened : currentProfile? past ≠ none → moment.step ≠ .cachedTable →
    ResolverSettings.standardPath ∉ moment.opened
  refused : moment.step.asksProfile = true → currentProfile? (past ++ [moment]) = none →
    ∃ fault, moment.machine.buildNow = .error fault ∧
      moment.answer = moment.step.refusal fault ∧ moment.after.state.built = none ∧
      moment.after.state.tables = moment.session.state.tables ∧
      moment.after.state.machine.clock = moment.machine.clock ∧ moment.readings = []
  reset : moment.step = .resetProfile →
    moment.answer = .ok .nothing ∧ moment.events = [] ∧ moment.after.state.built = none ∧
      moment.after.state.tables = moment.session.state.tables

section

variable {session : Session} {steps : List Step} {past later : List Moment} {moment : Moment}

theorem unopened_of_holds (apart : session.state.tables.path ≠ ResolverSettings.standardPath)
    (holds : HoldsProfile session.state.tables.path past moment.session)
    (current : currentProfile? past ≠ none) (notOwn : moment.step ≠ .cachedTable) :
    ResolverSettings.standardPath ∉ moment.opened := by
  have only : (∀ path ∈ moment.opened, path = moment.session.state.tables.path) →
      ResolverSettings.standardPath ∉ moment.opened := by
    intro only opened
    exact apart (holds.path.symm.trans (only _ opened).symm)
  have full : moment.session.state.built ≠ none := by
    intro empty
    rw [← holds.held, empty] at current
    exact current rfl
  cases resets : moment.step.resetsProfile with
  | true =>
      obtain ⟨_, quiet, _⟩ := Moment.after_of_reset (Step.eq_of_resetsProfile resets)
      unfold Moment.opened
      rw [quiet]
      exact List.not_mem_nil
  | false =>
      cases asking : moment.step.asksProfile with
      | false => exact only ((Moment.after_of_unasked asking resets).2.2 notOwn)
      | true =>
          cases (Moment.served_of_asksProfile asking).1 with
          | kept held uses after opened => exact only opened
          | made empty given uses after => exact absurd empty full
          | refused empty refused answer after tables clock unread => exact absurd empty full

/-- Over every run that starts without a profile. -/
theorem profile_built_once_per_reset (empty : session.state.built = none)
    (apart : session.state.tables.path ≠ ResolverSettings.standardPath)
    (cut : moments session steps = past ++ moment :: later) : KeepsProfile past moment := by
  have holds := HoldsProfile.of_moments empty cut
  have afterwards := holds.after_step.held
  refine ⟨?_, unopened_of_holds apart holds, ?_, ?_⟩
  · intro profile asking current
    rw [current] at afterwards
    cases (Moment.served_of_asksProfile asking).1 with
    | @kept built held uses after opened =>
        rw [after] at afterwards
        refine ⟨built, Option.some.inj afterwards, uses, after, ?_⟩
        intro other stillHeld
        exact Option.some.inj (stillHeld.symm.trans held)
    | @made built none given uses after =>
        rw [after] at afterwards
        refine ⟨built, Option.some.inj afterwards, uses, after, ?_⟩
        intro other held
        cases none.symm.trans held
    | refused none refused answer after tables clock unread =>
        rw [after] at afterwards
        cases afterwards
  · intro asking current
    rw [current] at afterwards
    cases (Moment.served_of_asksProfile asking).1 with
    | kept held uses after opened =>
        rw [after] at afterwards
        cases afterwards
    | made none given uses after =>
        rw [after] at afterwards
        cases afterwards
    | refused none refused answer after tables clock unread =>
        exact ⟨_, refused, answer, after, tables, clock, unread⟩
  · intro reset
    obtain ⟨answer, quiet, after⟩ := Moment.after_of_reset reset
    rw [after]
    exact ⟨answer, quiet, rfl, rfl⟩

/-- The first lookup fails for its mode setting, the second builds the profile, the third
finds another platform, and the last comes after a reset. -/
def changingPlatformSteps : List Step :=
  let lookup : Step := .route (Text.ofString "example.com") none
  [.setVariable Mode.variableName (some superscriptTwo), lookup,
    .setVariable Mode.variableName none, lookup,
    .setPlatform (Text.ofString "win32") false, lookup, .resetProfile, lookup]

def plainSession : Session := { state := { machine := {} } }

theorem profile_kept_on_other_platform :
    ∃ past moment later,
      moments plainSession changingPlatformSteps = past ++ moment :: later ∧
      moment.machine.family = .windows ∧
      ∃ built, moment.Uses built ∧ built.profile.family = .linux := by
  have cut : moments plainSession changingPlatformSteps =
      (moments plainSession changingPlatformSteps).take 5 ++
        (moments plainSession changingPlatformSteps).get ⟨5, by decide⟩ ::
          (moments plainSession changingPlatformSteps).drop 6 := rfl
  have apart : plainSession.state.tables.path ≠ ResolverSettings.standardPath := by decide
  have kept := profile_built_once_per_reset rfl apart cut
  have linux : (currentProfile? ((moments plainSession changingPlatformSteps).take 5 ++
      [(moments plainSession changingPlatformSteps).get ⟨5, by decide⟩])).map (·.family) =
        some .linux := by decide +kernel
  refine ⟨_, _, _, cut, by decide +kernel, ?_⟩
  obtain ⟨profile, current, family⟩ := Option.map_eq_some_iff.mp linux
  obtain ⟨built, rfl, uses, _⟩ := kept.used profile rfl current
  exact ⟨built, uses, family⟩

end

end Session

end ResolverChoice
