/-
Sessions: a running program, a cache of its own and a changing machine.

Steps either change the machine from outside or ask the library something.  A step
that fails does not end the session, and what it did before it failed stays done.
-/

import ResolverChoice.ResolverState

namespace ResolverChoice

inductive Step where
  | writeFile (path : String) (node : FileNode)
  | removeFile (path : String)
  | setVariable (name : String) (value : Option Text)
  | setHostName (name : Except RecordedError Text)
  | setPlatform (platform : Text) (hasAndroidLevel : Bool)
  | setClock (clock : Clock)
  | profile
  | profiles (callers : Nat)
  | resetProfile
  | route (host : Text) (options : Option LookupOptions)
  | allowsNative
  | table
  | replaceTable (table : SwitchTable) (offset : Seconds)
  | newCache (path : String) (timeToLive : Seconds)
  | cachedTable
  | replaceCachedTable (table : SwitchTable) (offset : Seconds)

inductive Answer where
  | nothing
  | profile (built : BuiltProfile)
  | generations (callers : List (Except Fault Nat))
  | route (route : Route)
  | truth (value : Bool)
  | table (table : SwitchTable)

structure Session where
  state : ResolverState
  cache : TableCache := {}

namespace Session

abbrev OnSession := StateM Session

def onState {α : Type} (action : OnState α) : OnSession α := do
  let session ← get
  let (result, state) := action.run session.state
  set { session with state := state }
  return result

def onMachine {α : Type} (action : OnMachine α) : OnSession α :=
  onState (ResolverState.onMachine action)

def change (change : Machine → Machine) : OnSession (Except Fault Answer) := do
  onMachine (modify change)
  return .ok .nothing

/-- Several callers that ask for the profile one after the other. -/
def generations : (callers : Nat) → OnState (List (Except Fault Nat))
  | 0 => return []
  | callers + 1 => do
      let first ← ResolverState.systemProfile
      let others ← generations callers
      return first.map BuiltProfile.generation :: others

def perform : Step → OnSession (Except Fault Answer)
  | .writeFile path node => change (fun machine => machine.writeFile path node)
  | .removeFile path => change (fun machine => machine.removeFile path)
  | .setVariable name value => change (fun machine => machine.setVariable name value)
  | .setHostName name => change (fun machine => { machine with hostName := name })
  | .setPlatform platform hasAndroidLevel =>
      change (fun machine =>
        { machine with platform := platform, hasAndroidLevel := hasAndroidLevel })
  | .setClock clock => change (fun machine => { machine with clock := clock })
  | .profile => return (← onState ResolverState.systemProfile).map .profile
  | .profiles callers => return .ok (.generations (← onState (generations callers)))
  | .resetProfile => do
      onState ResolverState.resetProfile
      return .ok .nothing
  | .route host options =>
      return (← onState (ResolverState.systemRoute host options)).map .route
  | .allowsNative => return (← onState ResolverState.systemAllowsNative).map .truth
  | .table => return .ok (.table (← onState ResolverState.systemTable))
  | .replaceTable table offset => do
      onState (ResolverState.replaceSystemTable table offset)
      return .ok .nothing
  | .newCache path timeToLive => do
      modify (fun session =>
        { session with cache := { path := path, timeToLive := timeToLive } })
      return .ok .nothing
  | .cachedTable => do
      let (table, cache) ← onMachine (← get).cache.lookup
      modify (fun session => { session with cache := cache })
      return .ok (.table table)
  | .replaceCachedTable table offset => do
      let cache ← onMachine ((← get).cache.replace table offset)
      modify (fun session => { session with cache := cache })
      return .ok .nothing

/-- What a step left behind: its answer and the trace of this step alone. -/
structure Outcome where
  answer : Except Fault Answer
  machine : Machine

def forgetTrace : OnSession Unit :=
  onMachine (modify (fun machine => { machine with trace := [] }))

def performTraced (step : Step) : OnSession Outcome := do
  forgetTrace
  let answer ← perform step
  return { answer := answer, machine := (← get).state.machine }

def run (steps : List Step) : OnSession (List Outcome) :=
  steps.mapM performTraced

end Session

end ResolverChoice
