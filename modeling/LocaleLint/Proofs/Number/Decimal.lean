import Mathlib
import LocaleLint.Number.Decimal
import LocaleLint.Proofs.Number.Rounding
import LocaleLint.Proofs.Text.Numeral

/-!
# Decimals of doubles

The decimal that a double is written with is read back as the same double, however it was found.
-/

namespace LocaleLint.Decimal

open Double

/-- The double that a decimal is read as, with a sign put in front. -/
def toDouble (negative : Bool) (d : Decimal) : Double := ofDecimal negative d.digits d.exponent

private theorem shortestFrom_read {mantissa : Nat} {exponent : Int} {d : Decimal}
    (fuel tried : Nat) (found : shortestFrom mantissa exponent fuel tried = some d) :
    d.toDouble false = finite false mantissa exponent := by
  induction fuel generalizing tried with
  | zero => cases found
  | succ fuel ih =>
    rw [shortestFrom] at found
    rcases Option.or_eq_some_iff.mp found with first | ⟨_, later⟩
    · have reads : isReadAs mantissa exponent d = true := List.find?_some first
      exact of_decide_eq_true reads
    · exact ih (tried + 1) later

private theorem exact_read {mantissa : Nat} {exponent : Int}
    (normal : IsNormal (finite false mantissa exponent)) (positive : mantissa ≠ 0) :
    (exact mantissa exponent).toDouble false = finite false mantissa exponent := by
  unfold exact toDouble
  split
  case isTrue nonneg =>
    obtain ⟨k, rfl⟩ := Int.eq_ofNat_of_zero_le nonneg
    rw [ofDecimal_eq_nearest false (by positivity)]
    apply nearest_eq_of_ratio false (by positivity) normal
    simp
  case isFalse below =>
    obtain ⟨k, rfl⟩ : ∃ k : Nat, exponent = -(k : Int) := ⟨(-exponent).toNat, by omega⟩
    rw [ofDecimal_eq_nearest false (by positivity)]
    apply nearest_eq_of_ratio false (by positivity) normal
    have none : (-(k : Int)).toNat = 0 := by omega
    rw [none, neg_neg, Int.toNat_natCast, pow_zero, Nat.mul_one, zpow_neg, zpow_natCast]
    push_cast
    rw [show (10 : ℚ) = 5 * 2 by norm_num, mul_pow]
    field_simp

private theorem dropZeros_read (negative : Bool) (fuel : Nat) (d : Decimal) :
    (dropZeros fuel d).toDouble negative = d.toDouble negative := by
  induction fuel generalizing d with
  | zero => rfl
  | succ fuel ih =>
    unfold dropZeros
    split
    case isTrue zero =>
      rw [ih]
      have digits : d.digits / 10 * 10 ^ 1 = d.digits := by omega
      have shifted := ofDecimal_mul_pow negative (d.digits / 10) 1 (d.exponent + 1)
      rw [digits, Nat.cast_one, add_sub_cancel_right] at shifted
      exact shifted.symm
    case isFalse => rfl

/-- A normal double is written with a decimal that is read as that double. -/
theorem ofDouble_toDouble {negative : Bool} {mantissa : Nat} {exponent : Int}
    (normal : IsNormal (finite negative mantissa exponent)) :
    (ofDouble mantissa exponent).toDouble negative = finite negative mantissa exponent := by
  obtain ⟨short, least, greatest, full⟩ := normal
  unfold ofDouble
  by_cases zero : mantissa = 0
  · have atLeast : exponent = minExponent := full.resolve_right (by omega)
    rw [if_pos zero, zero, atLeast]
    rfl
  · rw [if_neg zero]
    dsimp only
    rw [dropZeros_read]
    apply ofDecimal_sign negative
    cases found : shortestFrom mantissa exponent 17 0 with
    | none => exact exact_read (.intro short least greatest full) zero
    | some d => exact shortestFrom_read 17 0 found

theorem ofDouble_digits_eq_zero {mantissa : Nat} {exponent : Int}
    (normal : IsNormal (finite false mantissa exponent))
    (none : (ofDouble mantissa exponent).digits = 0) :
    (ofDouble mantissa exponent).exponent = 0 := by
  by_cases zero : mantissa = 0
  · simp [ofDouble, zero]
  · have read := ofDouble_toDouble normal
    simp only [toDouble, none, ofDecimal, if_true, nearest, finite.injEq] at read
    exact absurd read.2.1.symm zero

/-- The first digit of a decimal that is read as a finite double is not too far to the left. -/
theorem order_le {negative : Bool} {mantissa : Nat} {exponent : Int} {d : Decimal}
    (positive : d.digits ≠ 0) (read : d.toDouble negative = finite negative mantissa exponent) :
    d.order ≤ 400 := by
  by_contra large
  have leading := Text.pow_length_ofNat_le positive
  have digits : 1 ≤ digitCount d.digits :=
    List.length_pos_iff.mpr (Text.ofNat_ne_nil d.digits)
  rw [toDouble, ofDecimal_eq_nearest negative positive,
    nearest_eq_infinite negative (by positivity)] at read
  · cases read
  · rw [Nat.cast_mul, Nat.cast_pow, Nat.cast_pow, Nat.cast_ofNat, le_div_iff₀ (by positivity)]
    unfold order at large
    have places : 400 + (-d.exponent).toNat ≤ digitCount d.digits - 1 + d.exponent.toNat := by omega
    have lead : (10 : ℚ) ^ (digitCount d.digits - 1) ≤ d.digits := by exact_mod_cast leading
    calc (2 : ℚ) ^ (1024 : Int) * 10 ^ (-d.exponent).toNat
        ≤ 10 ^ 400 * 10 ^ (-d.exponent).toNat := by gcongr; exact two_pow_le_ten_pow
      _ = 10 ^ (400 + (-d.exponent).toNat) := by rw [pow_add]
      _ ≤ 10 ^ (digitCount d.digits - 1 + d.exponent.toNat) :=
          pow_le_pow_right₀ (by norm_num) places
      _ = 10 ^ (digitCount d.digits - 1) * 10 ^ d.exponent.toNat := by rw [pow_add]
      _ ≤ d.digits * 10 ^ d.exponent.toNat := by gcongr

end LocaleLint.Decimal
