/-
Building the profile of a machine.

Anything that makes the native resolver behave in a way that files cannot show
forces it: a family where it must be used, a request for it, variables that change
it, or settings that exist and could not be read.  Missing settings and missing
permission force nothing.

The steps are taken in a fixed order and stop as soon as the native resolver is
forced, so a profile that was forced early never opens the settings.
-/

import ResolverChoice.Machine.Reading
import ResolverChoice.Mode
import ResolverChoice.Profile.Basic

namespace ResolverChoice

/-- What a profile is built from, besides the machine's files. -/
structure ProfileRequest where
  family : Family
  environment : String → Option Text := fun _ => none
  wantsBuiltin : Bool := false
  wantsNative : Bool := false
  settingsPath : String := ResolverSettings.standardPath
  multicastPath : String := "/etc/mdns.allow"

namespace ProfileRequest

/-- Variables that change what the C library does, even when they are empty. -/
def resolverVariables : List String :=
  ["RES_OPTIONS", "HOSTALIASES", "LOCALDOMAIN"]

def changesResolver (request : ProfileRequest) : Bool :=
  resolverVariables.any (fun name => (request.environment name).isSome)

/-- On OpenBSD a non-empty variable replaces the settings file. -/
def replacesSettings (request : ProfileRequest) : Bool :=
  request.family == .openbsd &&
    (request.environment "ASR_CONFIG").any (fun value => !value.isEmpty)

/-- The profile before the machine is inspected. -/
def start (request : ProfileRequest) (mode : Mode) : Profile :=
  { family := request.family
    wantsBuiltin := request.wantsBuiltin || mode.wantsBuiltin
    wantsNative := request.wantsNative || mode.wantsNative
    debugLevel := mode.level }

/-- Whether the native resolver is forced without a look at the settings. -/
def forcesNative (request : ProfileRequest) (profile : Profile) : Bool :=
  profile.family.isApple || profile.wantsNative || request.changesResolver ||
    request.replacesSettings

def inspect (request : ProfileRequest) (profile : Profile) :
    OnMachine (Except Fault Profile) := do
  if !profile.family.usesCLibrary then
    return .ok { profile with
      wantsNative := profile.wantsNative || !profile.wantsBuiltin }
  else if request.forcesNative profile then
    return .ok { profile with forcesNative := true }
  else
    match ← readSettings request.settingsPath with
    | .error fault => return .error fault
    | .ok settings =>
        let machine ← get
        return .ok { profile with
          settings := settings
          forcesNative := settings.hidesContent
          allowsMulticast := machine.hasFile request.multicastPath }

def choiceNotice (request : ProfileRequest) (profile : Profile) : Notice :=
  if profile.wantsBuiltin then
    if request.wantsBuiltin then .builtinRequested
    else .builtinFromSetting Mode.variableName
  else if profile.forcesNative then .nativeForced
  else .dynamicSelection

def announce (request : ProfileRequest) (profile : Profile) : OnMachine Unit := do
  if profile.debugLevel > 1 then
    Machine.log (.preferences profile.wantsNative profile.wantsBuiltin)
  if profile.debugLevel > 0 then
    Machine.log (request.choiceNotice profile)

def build (request : ProfileRequest) : OnMachine (Except Fault Profile) := do
  match Mode.ofVariable (request.environment Mode.variableName) with
  | .error fault => return .error fault
  | .ok mode =>
      match ← request.inspect (request.start mode) with
      | .error fault => return .error fault
      | .ok profile =>
          request.announce profile
          return .ok profile

end ProfileRequest

def Machine.profileRequest (machine : Machine) : ProfileRequest :=
  { family := machine.family, environment := machine.environment }

end ResolverChoice
