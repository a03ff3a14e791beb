/-
The settings of a machine's own resolver.

They come from the resolver configuration file.  Routing looks at the `lookup`
order, at whether something in the file was not understood and at the error that
kept the file from being read; servers and limits are kept for callers that go on
to ask name servers themselves.
-/

import ResolverChoice.SystemError

namespace ResolverChoice

structure ResolverSettings where
  servers : List Text
  ndots : Nat := 1
  /-- Seconds, with the precision of a binary64 number. -/
  timeout : Rat := 5
  attempts : Nat := 2
  /-- Empty when the platform's own order is meant. -/
  lookup : List Text := []
  unknownOption : Bool := false
  error : Option SystemError := none

namespace ResolverSettings

def maximumServers : Nat := 3

/-- The servers of a file that names none. -/
def localServers : List Text :=
  [Text.ofString "127.0.0.1:53", Text.ofString "[::1]:53"]

/-- What holds without a file. -/
def standard : ResolverSettings :=
  { servers := localServers }

/-- The file could not be read, so nothing in it is known. -/
def unreadable (error : SystemError) : ResolverSettings :=
  { standard with error := some error }

def isMissing (settings : ResolverSettings) : Bool :=
  settings.error.any SystemError.isMissing

/-- The file exists, as far as can be told, and something other than missing
permission kept it from being read. -/
def hidesContent (settings : ResolverSettings) : Bool :=
  settings.error.any (fun error => !(error.isMissing || error.isForbidden))

end ResolverSettings

end ResolverChoice
