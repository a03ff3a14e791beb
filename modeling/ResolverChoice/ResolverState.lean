/-
What the library keeps while a program runs.

There is one profile, built when it is first needed and kept until it is reset,
and one cache for the machine's switch table.  Lookups go through both.  A build
that fails leaves nothing behind but its trace, so the next caller builds again.
-/

import ResolverChoice.Profile.Building
import ResolverChoice.Route.Decision
import ResolverChoice.TableCache

namespace ResolverChoice

/-- A profile and the number of the successful build that made it. -/
structure BuiltProfile where
  profile : Profile
  generation : Nat

structure ResolverState where
  machine : Machine
  tables : TableCache := {}
  built : Option BuiltProfile := none
  builds : Nat := 0

abbrev OnState := StateM ResolverState

namespace ResolverState

def onMachine {α : Type} (action : OnMachine α) : OnState α := do
  let state ← get
  let (result, machine) := action.run state.machine
  set { state with machine := machine }
  return result

/-! ### The switch table -/

def systemTable : OnState SwitchTable := do
  let (table, tables) ← onMachine (← get).tables.lookup
  modify (fun state => { state with tables := tables })
  return table

def replaceSystemTable (table : SwitchTable) (offset : Seconds) : OnState Unit := do
  let tables ← onMachine ((← get).tables.replace table offset)
  modify (fun state => { state with tables := tables })

/-! ### The profile -/

/-- The profile of the machine.  Callers wait for each other, so of several at once
the first builds and the rest find what it built. -/
def systemProfile : OnState (Except Fault BuiltProfile) := do
  let state ← get
  match state.built with
  | some built => return .ok built
  | none =>
      match ← onMachine state.machine.profileRequest.build with
      | .error fault => return .error fault
      | .ok profile =>
          let built := { profile := profile, generation := state.builds + 1 }
          modify (fun state =>
            { state with built := some built, builds := built.generation })
          return .ok built

def resetProfile : OnState Unit :=
  modify (fun state => { state with built := none })

/-! ### Lookups -/

/-- The route for a host under a profile.  The table is looked at only where it has
a say. -/
def routeUnder (profile : Profile) (host : Text) (options : Option LookupOptions) :
    OnState Route := do
  let fallback := fallbackRoute profile options
  match routeBeforeTable? profile fallback host with
  | some route => return route
  | none =>
      let table ← systemTable
      let ownName := (← get).machine.ownHostName
      return routeByTable profile fallback host ownName table

/-- The route for a host, told to the log at debug levels above one. -/
def route (profile : Profile) (host : Text) (options : Option LookupOptions) :
    OnState Route := do
  let route ← routeUnder profile host options
  if profile.debugLevel > 1 then
    onMachine (Machine.log (.decided host route))
  return route

/-- Whether lookups of other things than hosts may be left to the C library. -/
def allowsNative (profile : Profile) : OnState Bool := do
  return (← route profile [] none) == .native

def systemRoute (host : Text) (options : Option LookupOptions) : OnState (Except Fault Route) := do
  match ← systemProfile with
  | .error fault => return .error fault
  | .ok built => return .ok (← route built.profile host options)

def systemAllowsNative : OnState (Except Fault Bool) := do
  match ← systemProfile with
  | .error fault => return .error fault
  | .ok built => return .ok (← allowsNative built.profile)

end ResolverState

end ResolverChoice
