/-
How a profile is built, by where the building ends.

It ends before the settings are opened where the native resolver belongs to the system or
is forced, and otherwise once they are read.  `builds_of_build` says that no profile is
built in another way and gives every field of it.
-/

import ResolverChoice.Proofs.BuildFault

namespace ResolverChoice

namespace ProfileRequest

/-- The profile that a mode leads to, for each way in which the building can end. -/
inductive Builds (request : ProfileRequest) (mode : Mode) (machine : Machine) :
    Profile → Prop where
  | systemResolver (system : request.family.usesCLibrary = false) :
      Builds request mode machine
        { request.start mode with
          wantsNative := (request.start mode).wantsNative || !(request.start mode).wantsBuiltin }
  | forced (library : request.family.usesCLibrary = true)
      (forces : request.forcesNative (request.start mode) = true) :
      Builds request mode machine { request.start mode with forcesNative := true }
  | settings {settings : ResolverSettings} (opens : request.OpensSettings mode)
      (read : ((readSettings request.settingsPath).run machine).1 = .ok settings) :
      Builds request mode machine
        { request.start mode with
          settings := settings
          forcesNative := settings.hidesContent
          allowsMulticast := machine.hasFile request.multicastPath }

/-- OpenBSD is the one family that has its lookup order in the settings. -/
def onOpenbsd : ProfileRequest :=
  { family := .openbsd }

variable {request : ProfileRequest} {mode : Mode} {machine : Machine} {profile : Profile}

theorem Builds.family (builds : request.Builds mode machine profile) :
    profile.family = request.family := by
  cases builds with
  | systemResolver system => rfl
  | forced library forces => rfl
  | settings opens read => rfl

theorem Builds.wantsBuiltin (builds : request.Builds mode machine profile) :
    profile.wantsBuiltin = (request.wantsBuiltin || mode.wantsBuiltin) := by
  cases builds with
  | systemResolver system => rfl
  | forced library forces => rfl
  | settings opens read => rfl

theorem hasFile_after_readSettings (path other : String) :
    (((readSettings path).run machine).2).hasFile other = machine.hasFile other := by
  unfold readSettings
  rw [StateT.run_bind, Machine.run_readFile]
  cases machine.fileAt path with
  | error error => rfl
  | ok node => rfl

theorem builds_of_inspect
    (inspected : ((request.inspect (request.start mode)).run machine).1 = .ok profile) :
    request.Builds mode machine profile := by
  unfold inspect at inspected
  have sameFamily : (request.start mode).family = request.family := rfl
  rw [sameFamily] at inspected
  cases library : request.family.usesCLibrary with
  | false =>
      rw [library] at inspected
      cases inspected
      exact .systemResolver library
  | true =>
      rw [library] at inspected
      cases forces : request.forcesNative (request.start mode) with
      | true =>
          rw [forces] at inspected
          cases inspected
          exact .forced library forces
      | false =>
          rw [forces] at inspected
          simp only [Bool.not_true, Bool.false_eq_true, if_false, StateT.run_bind] at inspected
          have opens := (opensSettings_iff request mode).mpr ⟨library, forces⟩
          have files := @hasFile_after_readSettings machine request.settingsPath
            request.multicastPath
          cases read : (readSettings request.settingsPath).run machine with
          | mk result later =>
              rw [read] at inspected files
              cases result with
              | error fault => cases inspected
              | ok settings =>
                  cases inspected
                  rw [files]
                  exact .settings opens (by rw [read])

/-- What a build can give. -/
theorem builds_of_build (built : (request.build.run machine).1 = .ok profile) :
    ∃ mode, Mode.ofText request.modeSetting = .ok mode ∧
      request.Builds mode machine profile := by
  unfold build at built
  cases found : Mode.ofVariable (request.environment Mode.variableName) with
  | error fault =>
      rw [found] at built
      cases built
  | ok mode =>
      rw [found] at built
      refine ⟨mode, found, ?_⟩
      simp only [StateT.run_bind] at built
      cases inspected : (request.inspect (request.start mode)).run machine with
      | mk result later =>
          rw [inspected] at built
          cases result with
          | error fault => cases built
          | ok result =>
              apply builds_of_inspect
              rw [inspected]
              exact built

end ProfileRequest

end ResolverChoice
