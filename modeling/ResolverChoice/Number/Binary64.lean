/-
Numbers with 53 significant binary digits.

Every such number is an exact rational, so a result of arithmetic is the exact
result moved to the nearest number of the format, and halfway to the neighbour
whose last digit is even.  Below 2 to the power -1022 the spacing stays at 2 to
the power -1074.  `round` knows no greatest number and goes on with the same
precision; `exceeds` says which results have no nearest number in the format.
-/

namespace ResolverChoice

/-- The nearest integer; from halfway the even one. -/
def nearestInteger (value : Rat) : Int :=
  let below := value.floor
  let excess := value - below
  if excess < 1 / 2 then below
  else if 1 / 2 < excess then below + 1
  else if below % 2 = 0 then below
  else below + 1

def powerOfTwo (exponent : Int) : Rat :=
  (2 : Rat) ^ exponent

def magnitude (value : Rat) : Rat :=
  if value < 0 then -value else value

/-- The exponent of the greatest power of two that is not above the magnitude of a
value other than zero. -/
def leadingExponent (value : Rat) : Int :=
  let guess : Int := (Nat.log2 value.num.natAbs : Int) - (Nat.log2 value.den : Int)
  if powerOfTwo guess ≤ magnitude value then guess else guess - 1

/-- The exponent of the last of 53 binary digits of the value. -/
def lastPlace (value : Rat) : Int :=
  max (leadingExponent value - 52) (-1074)

namespace Binary64

def round (value : Rat) : Rat :=
  if value = 0 then 0
  else
    let unit := powerOfTwo (lastPlace value)
    nearestInteger (value / unit) * unit

/-- The sign, exponent and fraction fields of a rounded value in 64 bits.  Zero
has no sign here. -/
def bits (value : Rat) : Nat :=
  if value = 0 then 0
  else
    let place := lastPlace value
    let digits := (value / powerOfTwo place).num.natAbs
    let size := (place + 1074).toNat * Nat.pow 2 52 + digits
    if value < 0 then Nat.pow 2 63 + size else size

/-- Halfway between the greatest number of the format and 2 to the power 1024. -/
def limit : Nat :=
  Nat.pow 2 1024 - Nat.pow 2 970

/-- From halfway on a value would be rounded to a number that the format lacks. -/
def exceeds (value : Rat) : Bool :=
  decide ((limit : Rat) ≤ magnitude value)

end Binary64

end ResolverChoice
