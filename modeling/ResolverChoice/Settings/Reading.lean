/-
Reading the resolver configuration file.

Directives take effect in file order, so of several that set the same limit or
order the last one counts, while name servers add up to a maximum.  The first
number that cannot be read stops the reading; everything else that is not
understood is only noted.
-/

import ResolverChoice.Address
import ResolverChoice.Number.Binary64
import ResolverChoice.Number.Numeral
import ResolverChoice.Settings.Basic
import ResolverChoice.Settings.Directive
import ResolverChoice.Text.Lines

namespace ResolverChoice

namespace ResolverSettings

/-- The server that a literal address stands for, on the port of name servers. -/
def serverAt? (address : Text) : Option Text :=
  match Address.version? address with
  | some .four => some (address ++ Text.ofString ":53")
  | some .six => some (Text.ofString "[" ++ address ++ Text.ofString "]:53")
  | none => none

/-- The number at the start of an option's value, and zero if there is none. -/
def leadingNumber (value : Text) : Except Fault Nat :=
  match value.takeWhile Symbol.isDigit with
  | [] => .ok 0
  | digits => readNumeral digits

/-- At least one second. -/
def readTimeout (value : Text) : Except Fault Rat := do
  let seconds : Nat := max (← leadingNumber value) 1
  if Binary64.exceeds (seconds : Rat) then .error .beyondBinary64
  else .ok (Binary64.round (seconds : Rat))

def addServer (settings : ResolverSettings) (address : Text) : ResolverSettings :=
  if settings.servers.length < maximumServers then
    { settings with servers := settings.servers ++ (serverAt? address).toList }
  else settings

def applyOption (settings : ResolverSettings) (word : Text) :
    Except Fault ResolverSettings :=
  match ResolverOption.ofWord word with
  | .ndots value => do
      let number ← leadingNumber value
      return { settings with ndots := min number 15 }
  | .timeout value => do
      let seconds ← readTimeout value
      return { settings with timeout := seconds }
  | .attempts value => do
      let number ← leadingNumber value
      return { settings with attempts := max number 1 }
  | .ignored => .ok settings
  | .unknown => .ok { settings with unknownOption := true }

def apply (settings : ResolverSettings) : Directive → Except Fault ResolverSettings
  | .nameserver (address :: _) => .ok (settings.addServer address)
  | .nameserver [] => .ok settings
  | .options words => words.foldlM applyOption settings
  | .lookup order => .ok { settings with lookup := order }
  | .searchList => .ok settings
  | .unknown => .ok { settings with unknownOption := true }

def applyLine (settings : ResolverSettings) (line : Text) :
    Except Fault ResolverSettings :=
  match Directive.ofLine? line with
  | none => .ok settings
  | some directive => settings.apply directive

/-- Settings with at least one server. -/
def withServers (settings : ResolverSettings) : ResolverSettings :=
  if settings.servers.isEmpty then { settings with servers := localServers } else settings

def ofText (text : Text) : Except Fault ResolverSettings := do
  let settings ← (Text.lines text).foldlM applyLine { servers := [] }
  return settings.withServers

end ResolverSettings

end ResolverChoice
