/-
Host names and the tests that routing makes on them.

Names are compared without regard to the case of ASCII letters; other letters are
taken as they are.  A name is the text that the caller gave, so it may be empty,
begin with a dot or end in several.
-/

import ResolverChoice.Text.Pieces

namespace ResolverChoice

namespace HostName

def equals (name : Text) (word : String) : Bool :=
  Text.foldAscii name == Text.ofString word

def endsIn (name : Text) (ending : String) : Bool :=
  (Text.ofString ending).isSuffixOf (Text.foldAscii name)

def isLoopback (name : Text) : Bool :=
  equals name "localhost" || equals name "localhost.localdomain" ||
    endsIn name ".localhost" || endsIn name ".localhost.localdomain"

def isGatewayName (name : Text) : Bool :=
  equals name "_gateway"

def isOutboundName (name : Text) : Bool :=
  equals name "_outbound"

/-- Names of this form are reserved for multicast lookups. -/
def isMulticast (name : Text) : Bool :=
  endsIn name ".local"

/-- Backslash escapes and address zones are left to the C library. -/
def hasEscape (name : Text) : Bool :=
  name.contains (.char '\\') || name.contains (.char '%')

/-- The name without the dot that marks it as complete. -/
def withoutFinalDot (name : Text) : Text :=
  if name.getLast? = some (.char '.') then name.dropLast else name

def agree (name other : Text) : Bool :=
  Text.foldAscii name == Text.foldAscii other

/-- The labels of a name, outermost last. -/
def labels (name : Text) : List Text :=
  Text.pieces (· == .char '.') (Text.foldAscii name)

end HostName

end ResolverChoice
