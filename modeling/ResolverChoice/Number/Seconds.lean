/-
Times in seconds.

A time is a number, and arithmetic on times is either exact or rounded to binary64.
Rounding brings in values that are no numbers.  A negative result too small for the
format leaves a zero that keeps its sign, which compares like zero and is only
written differently; a result too large leaves an infinity; and the difference of
two infinities is undefined, which is neither less than nor equal to anything.
-/

import ResolverChoice.Number.Binary64

namespace ResolverChoice

inductive Precision where
  | exact
  | binary64
  deriving DecidableEq

inductive Seconds where
  | finite (value : Rat)
  | negativeZero
  | infinite (negative : Bool)
  | undefined
  deriving DecidableEq

namespace Seconds

instance {number : Nat} : OfNat Seconds number where
  ofNat := .finite number

/-- The time that stands for an exact result. -/
def ofExact (precision : Precision) (value : Rat) : Seconds :=
  match precision with
  | .exact => .finite value
  | .binary64 =>
      if Binary64.exceeds value then .infinite (decide (value < 0))
      else
        let rounded := Binary64.round value
        if rounded = 0 ∧ value < 0 then .negativeZero else .finite rounded

def value? : Seconds → Option Rat
  | .finite value => some value
  | .negativeZero => some 0
  | .infinite _ => none
  | .undefined => none

def opposite : Seconds → Seconds
  | .finite value => if value = 0 then .negativeZero else .finite (-value)
  | .negativeZero => .finite 0
  | .infinite negative => .infinite (!negative)
  | .undefined => .undefined

def plus (precision : Precision) (left right : Seconds) : Seconds :=
  match left, right with
  | .undefined, _ => .undefined
  | _, .undefined => .undefined
  | .infinite left, .infinite right => if left = right then .infinite left else .undefined
  | .infinite negative, _ => .infinite negative
  | _, .infinite negative => .infinite negative
  | .negativeZero, .negativeZero => .negativeZero
  | .negativeZero, .finite value => .ofExact precision value
  | .finite value, .negativeZero => .ofExact precision value
  | .finite left, .finite right => .ofExact precision (left + right)

def minus (precision : Precision) (left right : Seconds) : Seconds :=
  left.plus precision right.opposite

def isLess (left right : Seconds) : Bool :=
  match left.value?, right.value? with
  | some left, some right => decide (left < right)
  | _, _ =>
      match left, right with
      | .undefined, _ => false
      | _, .undefined => false
      | .infinite left, .infinite right => left && !right
      | .infinite negative, _ => negative
      | _, .infinite negative => !negative
      | _, _ => false

/-- Both zeros are the same time. -/
def agrees (left right : Seconds) : Bool :=
  match left.value?, right.value? with
  | some left, some right => decide (left = right)
  | _, _ => left != .undefined && left == right

def bits : Seconds → Nat
  | .finite value => Binary64.bits value
  | .negativeZero => Nat.pow 2 63
  | .infinite negative => (if negative then Nat.pow 2 63 else 0) + 2047 * Nat.pow 2 52
  | .undefined => 2047 * Nat.pow 2 52 + Nat.pow 2 51

/-! ### Numbers and exact arithmetic -/

theorem isLess_finite (left right : Rat) :
    (finite left).isLess (finite right) = decide (left < right) := rfl

theorem plus_exact (left right : Rat) :
    (finite left).plus .exact (finite right) = finite (left + right) := rfl

theorem minus_exact (left right : Rat) :
    (finite left).minus .exact (finite right) = finite (left - right) := by
  change (finite left).plus .exact
    (if right = 0 then negativeZero else finite (-right)) = finite (left - right)
  by_cases vanishes : right = 0
  · rw [if_pos vanishes, vanishes, Rat.sub_eq_add_neg, Rat.neg_zero, Rat.add_zero]
    rfl
  · rw [if_neg vanishes, plus_exact, Rat.sub_eq_add_neg]

end Seconds

end ResolverChoice
