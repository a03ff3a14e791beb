/-
What is told to whoever reads the log.

A notice says what happened; its wording and the channel that it is written to
follow from that.  All notices are of the lowest urgency.
-/

import ResolverChoice.Route.Basic
import ResolverChoice.SystemError

namespace ResolverChoice

inductive Channel where
  | settings
  | table
  | profile
  | decision
  deriving DecidableEq

def Channel.name : Channel → String
  | .settings => "hostlookup.util.resolv_conf"
  | .table => "hostlookup.util.nss"
  | .profile => "hostlookup.config"
  | .decision => "hostlookup.order"

inductive Notice where
  | unreadable (reader : Channel) (path : String) (error : SystemError)
  | reloading (path : String)
  | preferences (native builtin : Bool)
  | builtinRequested
  | builtinFromSetting (setting : String)
  | nativeForced
  | dynamicSelection
  | decided (host : Text) (route : Route)
  deriving DecidableEq

namespace Notice

def channel : Notice → Channel
  | .unreadable reader _ _ => reader
  | .reloading _ => .table
  | .preferences _ _ => .profile
  | .builtinRequested => .profile
  | .builtinFromSetting _ => .profile
  | .nativeForced => .profile
  | .dynamicSelection => .profile
  | .decided _ _ => .decision

def truth (value : Bool) : String :=
  if value then "True" else "False"

def message : Notice → String
  | .unreadable _ path error => "Couldn't read " ++ path ++ ": " ++ error.quoted
  | .reloading path => "Reloading " ++ path
  | .preferences native builtin =>
      "net_native=" ++ truth native ++ " net_builtin=" ++ truth builtin
  | .builtinRequested => "configured to use the built-in DNS resolver"
  | .builtinFromSetting setting => setting ++ " setting forcing use of the built-in resolver"
  | .nativeForced => "using the native DNS resolver"
  | .dynamicSelection => "dynamic selection of DNS resolver"
  | .decided host route =>
      "host_lookup_order(" ++ Text.quoted host ++ ") = " ++ route.word

end Notice

end ResolverChoice
