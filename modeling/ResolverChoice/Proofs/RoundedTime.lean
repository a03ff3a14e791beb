/-
Rounding does not carry a number past a number of the format.

Times that are judged in binary64 are judged by rounded differences.  A bound that is a
number of the format is met by the rounded difference only if it is met by the exact
one, so a table that is served as fresh is fresh by exact arithmetic too.
-/

import Mathlib.Algebra.Order.Field.Power
import Mathlib.Data.Rat.Cast.Order
import Mathlib.Tactic.Linarith
import ResolverChoice.Number.Seconds

namespace ResolverChoice

/-! ### Powers of two -/

theorem powerOfTwo_eq (exponent : Int) : powerOfTwo exponent = (2 : ℚ) ^ exponent := rfl

theorem powerOfTwo_pos (exponent : Int) : 0 < powerOfTwo exponent := by
  rw [powerOfTwo_eq]
  exact zpow_pos two_pos exponent

theorem powerOfTwo_add (first second : Int) :
    powerOfTwo (first + second) = powerOfTwo first * powerOfTwo second := by
  simp only [powerOfTwo_eq]
  exact zpow_add₀ two_ne_zero first second

theorem powerOfTwo_mono {first second : Int} (ordered : first ≤ second) :
    powerOfTwo first ≤ powerOfTwo second := by
  simp only [powerOfTwo_eq]
  exact zpow_le_zpow_right₀ one_le_two ordered

theorem powerOfTwo_natCast (exponent : Nat) :
    powerOfTwo exponent = ((2 ^ exponent : Nat) : ℚ) := by
  rw [powerOfTwo_eq, zpow_natCast, Nat.cast_pow, Nat.cast_ofNat]

theorem magnitude_eq_abs (value : Rat) : magnitude value = |value| := by
  unfold magnitude
  split
  · rename_i negative
    exact (abs_of_neg negative).symm
  · rename_i nonnegative
    exact (abs_of_nonneg (not_lt.mp nonnegative)).symm

/-- The power of two at the leading binary digit of a positive integer. -/
theorem powerOfTwo_log2_bounds {number : Nat} (nonzero : number ≠ 0) :
    powerOfTwo (number.log2 : Int) ≤ number ∧
      (number : ℚ) < powerOfTwo ((number.log2 : Int) + 1) := by
  have next : ((number.log2 : Int) + 1) = ((number.log2 + 1 : Nat) : Int) := by push_cast; rfl
  rw [next, powerOfTwo_natCast, powerOfTwo_natCast, Nat.cast_le, Nat.cast_lt]
  exact ⟨Nat.log2_self_le nonzero, Nat.lt_log2_self⟩

/-- A value other than zero lies from the power of two of its leading exponent up to the
next one. -/
theorem leadingExponent_bounds {value : Rat} (nonzero : value ≠ 0) :
    powerOfTwo (leadingExponent value) ≤ |value| ∧
      |value| < powerOfTwo (leadingExponent value + 1) := by
  have size : |value| = (value.num.natAbs : ℚ) / (value.den : ℚ) := by
    rw [Rat.abs_def, Rat.divInt_eq_div, Int.cast_natCast, Int.cast_natCast]
  obtain ⟨numeratorLow, numeratorHigh⟩ :=
    powerOfTwo_log2_bounds (Int.natAbs_ne_zero.mpr (Rat.num_ne_zero.mpr nonzero))
  obtain ⟨denominatorLow, denominatorHigh⟩ := powerOfTwo_log2_bounds value.den_nz
  have denominator : (0 : ℚ) < value.den := Nat.cast_pos.mpr value.den_pos
  unfold leadingExponent
  rw [magnitude_eq_abs]
  generalize (value.num.natAbs.log2 : Int) = first at numeratorLow numeratorHigh ⊢
  generalize (value.den.log2 : Int) = second at denominatorLow denominatorHigh ⊢
  have above : powerOfTwo (first - second - 1) ≤ |value| := by
    rw [size, le_div_iff₀ denominator]
    calc powerOfTwo (first - second - 1) * value.den
        ≤ powerOfTwo (first - second - 1) * powerOfTwo (second + 1) :=
          mul_le_mul_of_nonneg_left denominatorHigh.le (powerOfTwo_pos _).le
      _ = powerOfTwo first := by rw [← powerOfTwo_add]; congr 1; omega
      _ ≤ value.num.natAbs := numeratorLow
  have below : |value| < powerOfTwo (first - second + 1) := by
    rw [size, div_lt_iff₀ denominator]
    calc (value.num.natAbs : ℚ) < powerOfTwo (first + 1) := numeratorHigh
      _ = powerOfTwo (first - second + 1) * powerOfTwo second := by
          rw [← powerOfTwo_add]; congr 1; omega
      _ ≤ powerOfTwo (first - second + 1) * value.den :=
          mul_le_mul_of_nonneg_left denominatorLow (powerOfTwo_pos _).le
  dsimp only
  split
  · rename_i guessed
    exact ⟨guessed, below⟩
  · rename_i missed
    rw [sub_add_cancel]
    exact ⟨above, not_le.mp missed⟩

/-! ### Integers -/

theorem le_nearestInteger {bound : Int} {value : Rat} (below : (bound : ℚ) ≤ value) :
    bound ≤ nearestInteger value := by
  have floor : bound ≤ value.floor := Rat.le_floor_iff.mpr below
  unfold nearestInteger
  dsimp only
  split
  · exact floor
  · split
    · omega
    · split <;> omega

/-! ### Numbers of the format -/

namespace Binary64

/-- A value of the form that rounding gives is a multiple of its own last place. -/
theorem exists_multiple_of_round_eq {value : Rat} (held : round value = value) :
    ∃ digits : Int, value = digits * powerOfTwo (lastPlace value) := by
  by_cases zero : value = 0
  · exact ⟨0, by rw [Int.cast_zero, zero_mul]; exact zero⟩
  · unfold round at held
    rw [if_neg zero] at held
    exact ⟨_, held.symm⟩

theorem le_round_of_multiple {bound value : Rat} {digits : Int} (nonzero : value ≠ 0)
    (multiple : bound = digits * powerOfTwo (lastPlace value)) (below : bound ≤ value) :
    bound ≤ round value := by
  have positive := powerOfTwo_pos (lastPlace value)
  have quotient : (digits : ℚ) ≤ value / powerOfTwo (lastPlace value) := by
    rw [le_div_iff₀ positive, ← multiple]
    exact below
  have integer : (digits : ℚ) ≤ nearestInteger (value / powerOfTwo (lastPlace value)) :=
    Int.cast_le.mpr (le_nearestInteger quotient)
  unfold round
  rw [if_neg nonzero, multiple]
  exact mul_le_mul_of_nonneg_right integer positive.le

theorem le_round_of_le {bound value : Rat} (held : round bound = bound) (below : bound ≤ value) :
    bound ≤ round value := by
  by_cases zero : value = 0
  · rw [zero] at below ⊢
    exact below
  obtain ⟨digits, multiple⟩ := exists_multiple_of_round_eq held
  by_cases coarse : lastPlace value ≤ lastPlace bound
  · -- The bound is a multiple of the unit that the value is rounded to.
    obtain ⟨extra, place⟩ := Int.eq_ofNat_of_zero_le (sub_nonneg.mpr coarse)
    have finer : bound = ((digits * 2 ^ extra : Int) : ℚ) * powerOfTwo (lastPlace value) := by
      have split : lastPlace bound = (extra : Int) + lastPlace value := by omega
      rw [Int.cast_mul, mul_assoc, Int.cast_pow, Int.cast_ofNat]
      calc bound = digits * powerOfTwo (lastPlace bound) := multiple
        _ = digits * (2 ^ extra * powerOfTwo (lastPlace value)) := by
            rw [split, powerOfTwo_add, powerOfTwo_natCast, Nat.cast_pow, Nat.cast_ofNat]
    exact le_round_of_multiple zero finer below
  · -- The value is larger than the bound by a binary digit, and so is its leading power.
    have place : lastPlace value = leadingExponent value - 52 := by
      unfold lastPlace at coarse ⊢
      omega
    have leading : leadingExponent bound + 1 ≤ leadingExponent value := by
      unfold lastPlace at coarse
      omega
    have power : powerOfTwo (leadingExponent value) =
        ((2 ^ 52 : Int) : ℚ) * powerOfTwo (lastPlace value) := by
      have split : leadingExponent value = ((52 : Nat) : Int) + lastPlace value := by omega
      rw [Int.cast_pow, Int.cast_ofNat]
      calc powerOfTwo (leadingExponent value)
          = powerOfTwo (((52 : Nat) : Int) + lastPlace value) := congrArg powerOfTwo split
        _ = 2 ^ 52 * powerOfTwo (lastPlace value) := by
            rw [powerOfTwo_add, powerOfTwo_natCast, Nat.cast_pow, Nat.cast_ofNat]
    have smaller : |bound| < powerOfTwo (leadingExponent value) := by
      by_cases none : bound = 0
      · rw [none, abs_zero]
        exact powerOfTwo_pos _
      · exact (leadingExponent_bounds none).2.trans_le (powerOfTwo_mono leading)
    have reached : powerOfTwo (leadingExponent value) ≤ value := by
      have size := (leadingExponent_bounds zero).1
      rcases abs_cases value with ⟨same, _⟩ | ⟨opposite, negative⟩
      · rwa [same] at size
      · exfalso
        have far := neg_abs_le bound
        linarith
    exact (le_of_abs_le smaller.le).trans (le_round_of_multiple zero power reached)

end Binary64

/-! ### Times -/

namespace Seconds

/-- The precision has the time as it is.  Exact arithmetic has every time. -/
def Fits (precision : Precision) (time : Seconds) : Prop :=
  ∀ value, time = .finite value → ofExact precision value = .finite value

theorem round_eq_of_fits {value : Rat} (fits : Fits .binary64 (.finite value)) :
    Binary64.exceeds value = false ∧ Binary64.round value = value := by
  have held := fits value rfl
  unfold ofExact at held
  by_cases beyond : Binary64.exceeds value = true
  · simp only [if_pos beyond, reduceCtorEq] at held
  · rw [if_neg beyond] at held
    refine ⟨Bool.eq_false_iff.mpr beyond, ?_⟩
    dsimp only at held
    split at held
    · cases held
    · exact Seconds.finite.inj held

/-- A value too great for the format is below a bound only if it is negative, and then it
is below all bounds that the format has. -/
theorem isLess_of_exceeds {value : Rat} {bound : Seconds} (fits : bound.Fits .binary64)
    (beyond : Binary64.exceeds value = true)
    (less : (infinite (decide (value < 0))).isLess bound = true) :
    (finite value).isLess bound = true := by
  unfold Binary64.exceeds at beyond
  rw [magnitude_eq_abs, decide_eq_true_eq] at beyond
  cases bound with
  | finite bound =>
      have negative : value < 0 := of_decide_eq_true less
      have within := (round_eq_of_fits fits).1
      unfold Binary64.exceeds at within
      rw [magnitude_eq_abs, decide_eq_false_iff_not, not_le] at within
      rw [abs_of_neg negative] at beyond
      have far := neg_abs_le bound
      rw [isLess_finite, decide_eq_true_eq]
      linarith
  | negativeZero => exact less
  | infinite negative =>
      have other : (decide (value < 0) && !negative) = true := less
      exact (Bool.and_eq_true_iff.mp other).2
  | undefined => cases less

/-- A rounded value is below a bound of the format only if the exact value is. -/
theorem isLess_of_isLess_round {value : Rat} {bound : Seconds} (fits : bound.Fits .binary64)
    (less : (finite (Binary64.round value)).isLess bound = true) :
    (finite value).isLess bound = true := by
  cases bound with
  | finite bound =>
      rw [isLess_finite, decide_eq_true_eq] at less ⊢
      by_contra reached
      exact absurd (Binary64.le_round_of_le (round_eq_of_fits fits).2 (not_lt.mp reached))
        (not_le.mpr less)
  | negativeZero =>
      have below : Binary64.round value < 0 := of_decide_eq_true less
      refine decide_eq_true ?_
      by_contra reached
      exact absurd (Binary64.le_round_of_le rfl (not_lt.mp reached)) (not_le.mpr below)
  | infinite negative => exact less
  | undefined => cases less

theorem isLess_of_isLess_ofExact {precision : Precision} {value : Rat} {bound : Seconds}
    (fits : bound.Fits precision) (less : (ofExact precision value).isLess bound = true) :
    (finite value).isLess bound = true := by
  cases precision with
  | exact => exact less
  | binary64 =>
      unfold ofExact at less
      by_cases beyond : Binary64.exceeds value = true
      · rw [if_pos beyond] at less
        exact isLess_of_exceeds fits beyond less
      · rw [if_neg beyond] at less
        dsimp only at less
        by_cases vanishes : Binary64.round value = 0 ∧ value < 0
        · -- The zero that keeps its sign compares like the rounded value.
          rw [if_pos vanishes] at less
          apply isLess_of_isLess_round fits
          rw [vanishes.1]
          cases bound <;> exact less
        · rw [if_neg vanishes] at less
          exact isLess_of_isLess_round fits less

/-- Either one exact value stands behind a sum in every precision, or the sum is the same
in every precision. -/
theorem plus_cases (left right : Seconds) :
    (∃ value, ∀ precision, left.plus precision right = ofExact precision value) ∨
      ∀ precision, left.plus precision right = left.plus .exact right := by
  cases left with
  | finite left =>
      cases right with
      | finite right => exact Or.inl ⟨left + right, fun _ => rfl⟩
      | negativeZero => exact Or.inl ⟨left, fun _ => rfl⟩
      | infinite negative => exact Or.inr (fun _ => rfl)
      | undefined => exact Or.inr (fun _ => rfl)
  | negativeZero =>
      cases right with
      | finite right => exact Or.inl ⟨right, fun _ => rfl⟩
      | negativeZero => exact Or.inr (fun _ => rfl)
      | infinite negative => exact Or.inr (fun _ => rfl)
      | undefined => exact Or.inr (fun _ => rfl)
  | infinite negative =>
      apply Or.inr
      intro precision
      cases right <;> rfl
  | undefined =>
      apply Or.inr
      intro precision
      cases right <;> rfl

/-- A rounded difference that is below a bound of the format comes from an exact one that
is below it. -/
theorem isLess_exact_of_isLess {precision : Precision} {later earlier bound : Seconds}
    (fits : bound.Fits precision)
    (less : (later.minus precision earlier).isLess bound = true) :
    (later.minus .exact earlier).isLess bound = true := by
  unfold minus at less ⊢
  rcases plus_cases later earlier.opposite with ⟨value, sum⟩ | same
  · rw [sum] at less ⊢
    exact isLess_of_isLess_ofExact fits less
  · rw [same] at less
    exact less

end Seconds

end ResolverChoice
