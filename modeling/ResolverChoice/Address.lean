/-
Literal network addresses.

A version 4 address is four octets in decimal without leading zeros.  A version
6 address is eight groups of hexadecimal digits, of which one run may be left out
at a double colon; the last two groups may be written as a version 4 address.  A
zone may follow a version 6 address after a percent sign.  Only the form is
checked here: the address is kept as it was written.
-/

import ResolverChoice.Text.Digit
import ResolverChoice.Text.Pieces

namespace ResolverChoice

inductive AddressVersion where
  | four
  | six
  deriving DecidableEq

namespace Address

def isHexDigit (symbol : Symbol) : Bool :=
  symbol.isAsciiDigit ||
    (decide (0x41 ≤ symbol.code) && decide (symbol.code ≤ 0x46)) ||
    (decide (0x61 ≤ symbol.code) && decide (symbol.code ≤ 0x66))

def octetValue (digits : Text) : Nat :=
  digits.foldl (fun value digit => 10 * value + (digit.code - 0x30)) 0

def isOctet (text : Text) : Bool :=
  !text.isEmpty && decide (text.length ≤ 3) && text.all Symbol.isAsciiDigit &&
    (text == [.char '0'] || text.head? != some (.char '0')) &&
    decide (octetValue text ≤ 255)

def isDottedQuad (text : Text) : Bool :=
  let octets := Text.pieces (· == .char '.') text
  octets.length == 4 && octets.all isOctet

def isGroup (text : Text) : Bool :=
  !text.isEmpty && decide (text.length ≤ 4) && text.all isHexDigit

/-- How many groups the pieces stand for; a dotted quad stands for two and is
allowed at the end only. -/
def groupCount? : List Text → Option Nat
  | [] => some 0
  | [final] =>
      if isGroup final then some 1
      else if isDottedQuad final then some 2
      else none
  | group :: rest => if isGroup group then (groupCount? rest).map (· + 1) else none

/-- The groups after a double colon; there may be none. -/
def trailingCount? (text : Text) : Option Nat :=
  if text.isEmpty then some 0
  else groupCount? (Text.pieces (· == .char ':') text)

/-- The groups before a double colon, where no dotted quad is allowed. -/
def leadingCount? (text : Text) : Option Nat :=
  let groups := Text.pieces (· == .char ':') text
  if text.isEmpty then some 0
  else if groups.all isGroup then some groups.length
  else none

/-- The text before and after the first double colon. -/
def cutAtGap? : Text → Option (Text × Text)
  | [] => none
  | .char ':' :: .char ':' :: rest => some ([], rest)
  | symbol :: rest => (cutAtGap? rest).map (fun (before, after) => (symbol :: before, after))

def isColonHex (text : Text) : Bool :=
  match cutAtGap? text with
  | none => groupCount? (Text.pieces (· == .char ':') text) == some 8
  | some (before, after) =>
      match leadingCount? before, trailingCount? after with
      | some leading, some trailing => decide (leading + trailing ≤ 7)
      | _, _ => false

def isZone (text : Text) : Bool :=
  !text.isEmpty && !text.contains (.char '%')

def isVersionSix (text : Text) : Bool :=
  let (groups, zone) := Text.cutAt (· == .char '%') text
  !text.contains (.char '/') && isColonHex groups && zone.all isZone

def version? (text : Text) : Option AddressVersion :=
  if isDottedQuad text then some .four
  else if isVersionSix text then some .six
  else none

end Address

end ResolverChoice
