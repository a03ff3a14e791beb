/-
Reading the two configuration files of a machine.

A file that cannot be read is no failure: the error becomes part of what was read.
-/

import ResolverChoice.Machine.Basic
import ResolverChoice.Settings.Reading
import ResolverChoice.Switch.Reading

namespace ResolverChoice

def ResolverSettings.standardPath : String := "/etc/resolv.conf"

def SwitchTable.standardPath : String := "/etc/nsswitch.conf"

def readSettings (path : String) : OnMachine (Except Fault ResolverSettings) := do
  match ← Machine.readFile path with
  | .error error =>
      Machine.log (.unreadable .settings path error)
      return .ok (.unreadable error)
  | .ok node => return ResolverSettings.ofText (Text.ofFile node.bytes)

def readTable (path : String) : OnMachine SwitchTable := do
  match ← Machine.readFile path with
  | .error error =>
      Machine.log (.unreadable .table path error)
      return { error := some (.system error) }
  | .ok node =>
      return { SwitchTable.ofText (some path) (Text.ofFile node.bytes) with
        modified := some node.modified }

end ResolverChoice
