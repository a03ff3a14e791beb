/-
The mode setting: which resolver the user wants, and how much to log.

The setting has at most two parts, around its first plus sign.  A part that begins
with a digit is a level, any other non-empty part is a mode; of two parts of one
sort the second counts.
-/

import ResolverChoice.Number.Numeral
import ResolverChoice.Text.Pieces

namespace ResolverChoice

structure Mode where
  word : Text := []
  level : Nat := 0
  deriving DecidableEq

namespace Mode

def variableName : String := "HOSTLOOKUP_DNS"

def wantsBuiltin (mode : Mode) : Bool :=
  mode.word == Text.ofString "builtin" || mode.word == Text.ofString "go"

def wantsNative (mode : Mode) : Bool :=
  mode.word == Text.ofString "native" || mode.word == Text.ofString "cgo"

/-- A level is written in ASCII digits, although a digit of any script makes the
part a level. -/
def readPart (mode : Mode) (part : Text) : Except Fault Mode :=
  match part with
  | [] => .ok mode
  | first :: _ =>
      if first.isDigit then do
        let level ← readNumeral (part.takeWhile Symbol.isAsciiDigit)
        return { mode with level := level }
      else .ok { mode with word := part }

def parts (setting : Text) : List Text :=
  let (first, second) := Text.cutAt (· == .char '+') setting
  first :: second.toList

def ofText (setting : Text) : Except Fault Mode :=
  (parts setting).foldlM readPart {}

/-- A variable that is not set counts as empty. -/
def ofVariable (setting : Option Text) : Except Fault Mode :=
  ofText (setting.getD [])

end Mode

end ResolverChoice
