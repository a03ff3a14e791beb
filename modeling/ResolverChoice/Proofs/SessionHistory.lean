/-
Runs of a session, step by step.

`Session.moments` lists the steps of a run, each with the session that it finds.  A
statement about a run is one about the list cut at some moment: what lies before the
cut is the past of that moment.  `moments_invariant` is the induction behind all of
them: what holds at the start and is kept by every step holds at every moment of its
past.
-/

import Mathlib.Data.List.Induction
import ResolverChoice.Session

namespace ResolverChoice

namespace Session

/-- A step of a run and the session that the step finds. -/
structure Moment where
  session : Session
  step : Step

namespace Moment

def result (moment : Moment) : Outcome × Session :=
  (performTraced moment.step).run moment.session

def answer (moment : Moment) : Except Fault Answer :=
  moment.result.1.answer

def machine (moment : Moment) : Machine :=
  moment.session.state.machine

def after (moment : Moment) : Session :=
  moment.result.2

/-- What this step alone left in the trace. -/
def events (moment : Moment) : List Event :=
  moment.result.1.machine.trace

def readings (moment : Moment) : List Seconds :=
  moment.events.filterMap Event.reading?

def opened (moment : Moment) : List String :=
  moment.events.filterMap Event.opened?

end Moment

def moments : Session → List Step → List Moment
  | _, [] => []
  | session, step :: rest =>
      { session := session, step := step } ::
        moments (Moment.after { session := session, step := step }) rest

/-- The outcomes of a run are those of its moments. -/
theorem fst_run_run (session : Session) (steps : List Step) :
    ((run steps).run session).1 = (moments session steps).map (fun moment => moment.result.1) := by
  induction steps generalizing session with
  | nil => rfl
  | cons step rest ih =>
      have others := ih (Moment.after { session := session, step := step })
      simp only [run, List.mapM_cons, moments, List.map_cons] at others ⊢
      rw [← others]
      rfl

/-! ### Parts of a run -/

section

variable {session : Session} {steps : List Step}

theorem step_mem_of_mem_moments {moment : Moment} (member : moment ∈ moments session steps) :
    moment.step ∈ steps := by
  induction steps generalizing session with
  | nil => cases member
  | cons step rest ih =>
      rcases List.mem_cons.mp member with rfl | later
      · exact List.mem_cons_self
      · exact List.mem_cons_of_mem step (ih later)

/-- The first moment finds the session that the run starts from. -/
theorem session_of_moments_eq_cons {moment : Moment} {later : List Moment}
    (cut : moments session steps = moment :: later) : moment.session = session := by
  cases steps with
  | nil => cases cut
  | cons step rest =>
      simp only [moments, List.cons.injEq] at cut
      rw [← cut.1]

/-- Every other moment finds the session that the one before it leaves. -/
theorem session_of_moments_eq_append {past later : List Moment} {moment next : Moment}
    (cut : moments session steps = past ++ moment :: next :: later) :
    next.session = moment.after := by
  induction past generalizing session steps with
  | nil =>
      cases steps with
      | nil => cases cut
      | cons step rest =>
          simp only [moments, List.nil_append, List.cons.injEq] at cut
          rw [← cut.1]
          exact session_of_moments_eq_cons cut.2
  | cons first past ih =>
      cases steps with
      | nil => cases cut
      | cons step rest =>
          simp only [moments, List.cons_append, List.cons.injEq] at cut
          exact ih cut.2

/-- Whatever holds of the empty past and the first session, and is kept by each step of
the run, holds of every past and the session that it leads to. -/
theorem moments_invariant (Invariant : List Moment → Session → Prop)
    (initial : Invariant [] session)
    (kept : ∀ past moment later, moments session steps = past ++ moment :: later →
      Invariant past moment.session → Invariant (past ++ [moment]) moment.after)
    {past later : List Moment} {moment : Moment}
    (cut : moments session steps = past ++ moment :: later) :
    Invariant past moment.session := by
  induction past using List.reverseRecOn generalizing moment later with
  | nil =>
      rw [session_of_moments_eq_cons cut]
      exact initial
  | append_singleton past last ih =>
      rw [List.append_assoc, List.singleton_append] at cut
      rw [session_of_moments_eq_append cut]
      exact kept past last (moment :: later) cut (ih cut)

/-- The same at the end of the run. -/
theorem moments_invariant_end (Invariant : List Moment → Session → Prop)
    (initial : Invariant [] session)
    (kept : ∀ past moment later, moments session steps = past ++ moment :: later →
      Invariant past moment.session → Invariant (past ++ [moment]) moment.after) :
    ∃ reached, Invariant (moments session steps) reached := by
  cases ends : (moments session steps).getLast? with
  | none =>
      rw [List.getLast?_eq_none_iff.mp ends]
      exact ⟨session, initial⟩
  | some last =>
      obtain ⟨past, cut⟩ := List.getLast?_eq_some_iff.mp ends
      have before := moments_invariant Invariant initial kept cut
      rw [cut]
      exact ⟨last.after, kept past last [] cut before⟩

end

end Session

end ResolverChoice
