/-
Numbers written in decimal digits of any script.

The length is checked before the digits are: a numeral whose leading decimal
digits are too many is refused for that, whatever follows them.
-/

import ResolverChoice.Fault
import ResolverChoice.Text.Digit

namespace ResolverChoice

/-- The number that the decimal digits write, most significant first. -/
def decimalNumber (digits : Text) : Nat :=
  digits.foldl (fun number digit => 10 * number + digit.decimalValue?.getD 0) 0

def readNumeral (literal : Text) : Except Fault Nat :=
  let count := (literal.takeWhile Symbol.isDecimal).length
  if maximumDigits < count then .error (.tooManyDigits count)
  else if literal = [] ∨ count < literal.length then .error (.notANumber literal)
  else .ok (decimalNumber literal)

end ResolverChoice
