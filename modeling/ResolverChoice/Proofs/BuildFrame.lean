/-
What a build depends on and what it leaves behind.

A build looks at files and at nothing else of the machine.  It opens the settings file at
most, tells what it found to the log, and reads no clock.  So its result and its part of
the trace are the same on all machines with the same files, and the machine is otherwise
left as it was.
-/

import ResolverChoice.Proofs.BuildCourse
import ResolverChoice.Proofs.CacheCourse

namespace ResolverChoice

/-- The file at the path was opened, or something was told to the log. -/
def Event.OpensOrTells (path : String) : Event → Prop
  | .opened other => other = path
  | .logged _ => True
  | .examined _ => False
  | .clockRead _ => False

section

variable {path : String} {events : List Event}

theorem reading?_eq_nil_of_opensOrTells (quiet : ∀ event ∈ events, event.OpensOrTells path) :
    events.filterMap Event.reading? = [] := by
  rw [List.filterMap_eq_nil_iff]
  intro event member
  have allowed := quiet event member
  cases event with
  | opened other => rfl
  | logged notice => rfl
  | examined other => exact allowed.elim
  | clockRead reading => exact allowed.elim

end

/-- On all machines with the same files the action gives the same result and adds the
same events to the trace, which open the one path at most. -/
def FromFiles {α : Type} (path : String) (action : OnMachine α) : Prop :=
  ∀ machine : Machine, ∃ result events, (∀ event ∈ events, event.OpensOrTells path) ∧
    ∀ other : Machine, other.files = machine.files →
      action.run other = (result, other.leave events)

namespace FromFiles

variable {α β : Type} {path : String}

theorem pure (value : α) : FromFiles path (Pure.pure value : OnMachine α) := by
  intro machine
  refine ⟨value, [], List.forall_mem_nil _, ?_⟩
  intro other _
  simp only [Machine.leave, List.append_nil]
  rfl

/-- A value that is computed from the files. -/
theorem ofFiles {value : Machine → α}
    (fromFiles : ∀ before after : Machine, before.files = after.files →
      value before = value after) :
    FromFiles path (do return value (← get) : OnMachine α) := by
  intro machine
  refine ⟨value machine, [], List.forall_mem_nil _, ?_⟩
  intro other same
  simp only [Machine.leave, List.append_nil]
  exact congrArg (·, other) (fromFiles other machine same)

theorem bind {action : OnMachine α} {next : α → OnMachine β}
    (first : FromFiles path action) (later : ∀ value, FromFiles path (next value)) :
    FromFiles path (action >>= next) := by
  intro machine
  obtain ⟨value, events, quiet, given⟩ := first machine
  obtain ⟨result, others, laterQuiet, laterGiven⟩ := later value machine
  refine ⟨result, events ++ others, List.forall_mem_append.mpr ⟨quiet, laterQuiet⟩, ?_⟩
  intro other same
  rw [Machine.run_bind, given other same, laterGiven (other.leave events) same,
    Machine.leave_leave]

theorem log (notice : Notice) : FromFiles path (Machine.log notice) := by
  intro machine
  refine ⟨(), [.logged notice], ?_, fun other _ => rfl⟩
  intro event member
  obtain rfl := List.mem_singleton.mp member
  trivial

theorem readFile (path : String) : FromFiles path (Machine.readFile path) := by
  intro machine
  refine ⟨machine.fileAt path, [.opened path], ?_, ?_⟩
  · intro event member
    obtain rfl := List.mem_singleton.mp member
    rfl
  · intro other same
    rw [Machine.run_readFile, Machine.fileAt_congr same]
    rfl

theorem readSettings (path : String) : FromFiles path (ResolverChoice.readSettings path) := by
  apply (readFile path).bind
  intro result
  cases result with
  | error error => exact (log _).bind (fun _ => pure _)
  | ok node => exact pure _

/-! ### Building -/

variable (request : ProfileRequest)

theorem inspect (profile : Profile) : FromFiles request.settingsPath (request.inspect profile) := by
  unfold ProfileRequest.inspect
  split
  · exact pure _
  · split
    · exact pure _
    · apply (readSettings request.settingsPath).bind
      intro result
      cases result with
      | error fault => exact pure _
      | ok settings =>
          apply ofFiles
          intro before after same
          simp only [Machine.hasFile, Machine.modified?, same]

theorem told (wanted : Prop) [Decidable wanted] (notice : Notice) :
    FromFiles path (if wanted then Machine.log notice else Pure.pure () : OnMachine Unit) := by
  split
  · exact log notice
  · exact pure ()

theorem announce (profile : Profile) : FromFiles path (request.announce profile) := by
  unfold ProfileRequest.announce
  dsimp only
  split
  · exact (log _).bind (fun _ => told (profile.debugLevel > 0) _)
  · exact told (profile.debugLevel > 0) _

theorem build : FromFiles request.settingsPath request.build := by
  unfold ProfileRequest.build
  split
  · exact pure _
  · apply (inspect request _).bind
    intro result
    cases result with
    | error fault => exact pure _
    | ok profile => exact (announce request profile).bind (fun _ => pure _)

end FromFiles

namespace ProfileRequest

/-- What a build gives, without what it tells to the log. -/
theorem fst_run_build (request : ProfileRequest) (machine : Machine) :
    (request.build.run machine).1 =
      match Mode.ofText request.modeSetting with
      | .error fault => .error fault
      | .ok mode => ((request.inspect (request.start mode)).run machine).1 := by
  unfold build Mode.ofVariable modeSetting
  cases Mode.ofText ((request.environment Mode.variableName).getD []) with
  | error fault => rfl
  | ok mode =>
      dsimp only
      rw [Machine.run_bind]
      cases ((request.inspect (request.start mode)).run machine).1 with
      | error fault => rfl
      | ok profile => rfl

end ProfileRequest

end ResolverChoice
