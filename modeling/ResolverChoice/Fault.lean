/-
What can stop a value from being made, and how it is reported.

Unreadable files and malformed switch tables are not among these: they are kept
as part of what was read.  Left are numbers that are none or are out of range,
and names that no family or route has.
-/

import ResolverChoice.Text.Quoted

namespace ResolverChoice

/-- How many digits a number may be written with. -/
def maximumDigits : Nat := 4300

inductive Fault where
  | notANumber (literal : Text)
  | tooManyDigits (count : Nat)
  | beyondBinary64
  | unknownFamily (name : Text)
  | unknownRoute (name : Text)
  deriving DecidableEq

/-- A number out of range is an overflow, everything else an error of value. -/
def Fault.className : Fault → String
  | .beyondBinary64 => "OverflowError"
  | .notANumber _ | .tooManyDigits _ | .unknownFamily _ | .unknownRoute _ => "ValueError"

/-- A literal is quoted in at most 200 characters. -/
def Fault.message : Fault → String
  | .notANumber literal =>
      "invalid literal for int() with base 10: " ++
        String.ofList ((Text.quotedChars literal).take 200)
  | .tooManyDigits count =>
      "Exceeds the limit (" ++ toString maximumDigits ++
        " digits) for integer string conversion: value has " ++ toString count ++
        " digits; use sys.set_int_max_str_digits() to increase the limit"
  | .beyondBinary64 => "int too large to convert to float"
  | .unknownFamily name => Text.quoted name ++ " is not a valid OSFamily"
  | .unknownRoute name => Text.quoted name ++ " is not a valid LookupOrder"

end ResolverChoice
