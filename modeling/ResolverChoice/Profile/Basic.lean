/-
The profile of a machine: all that routing has to know about it besides the
switch table.
-/

import ResolverChoice.Family
import ResolverChoice.Settings.Basic

namespace ResolverChoice

structure Profile where
  family : Family := .linux
  /-- Nothing but the native resolver will do. -/
  forcesNative : Bool := false
  wantsBuiltin : Bool := false
  wantsNative : Bool := false
  /-- There is a file of domains that multicast lookups are allowed for. -/
  allowsMulticast : Bool := false
  debugLevel : Int := 0
  settings : ResolverSettings := .standard

end ResolverChoice
