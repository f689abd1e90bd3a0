import Mathlib
import LocaleLint.Proofs.Number.Rounding

/-!
# Scaling by powers of ten

A double that is scaled by a power of ten is rounded for the power and for each product or quotient
by it. What comes out is a normal double, unless it is too large. If neither the number nor the
power needs to be rounded, it is the nearest double.
-/

namespace LocaleLint.Double

/-- A normal double, or one beyond them. -/
def IsRounded (x : Double) : Prop := x.IsNormal ∨ ∃ negative, x = infinite negative

theorem isRounded_nearest (negative : Bool) (num : Nat) {den : Nat} (denPos : 0 < den) :
    (nearest negative num den).IsRounded :=
  (nearest_isNormal negative denPos).imp id fun large => ⟨negative, large⟩

theorem exists_powerOfTen {n : Nat} (within : n ≤ greatestPower) :
    ∃ mantissa exponent, powerOfTen n = finite false mantissa exponent ∧ mantissa ≠ 0 := by
  have all : ∀ n ≤ greatestPower, (powerOfTen n).isZero = false ∧
      (powerOfTen n).isNegative = false ∧ powerOfTen n ≠ infinite false ∧ powerOfTen n ≠ nan := by
    decide +kernel
  obtain ⟨some, positive, small, number⟩ := all n within
  cases power : powerOfTen n with
  | finite negative mantissa exponent =>
    rw [power] at some positive
    cases positive
    exact ⟨mantissa, exponent, rfl, of_decide_eq_false some⟩
  | infinite negative =>
    rw [power] at small positive
    cases positive
    exact absurd rfl small
  | nan => exact absurd power number

section

variable {x : Double} (rounded : x.IsRounded)

include rounded

theorem IsRounded.mul_powerOfTen {n : Nat} (within : n ≤ greatestPower) :
    (x.mul (powerOfTen n)).IsRounded := by
  obtain ⟨mantissa, exponent, power, some⟩ := exists_powerOfTen within
  rw [power]
  rcases rounded with ⟨_, _, _, _⟩ | ⟨negative, rfl⟩
  · exact isRounded_nearest _ _ (scaleDown_pos one_pos _)
  · refine .inr ⟨negative, ?_⟩
    simp [mul, isZero, isNegative, some]

theorem IsRounded.div_powerOfTen {n : Nat} (within : n ≤ greatestPower) :
    (x.div (powerOfTen n)).IsRounded := by
  obtain ⟨mantissa, exponent, power, some⟩ := exists_powerOfTen within
  rw [power]
  rcases rounded with ⟨_, _, _, _⟩ | ⟨negative, rfl⟩
  · rw [div, if_neg some]
    exact isRounded_nearest _ _ (scaleDown_pos (Nat.pos_of_ne_zero some) _)
  · exact .inr ⟨_, rfl⟩

theorem IsRounded.overPower {rounds n : Nat} (enough : n / greatestPower ≤ rounds) :
    (overPower rounds n x).IsRounded := by
  induction rounds generalizing n x with
  | zero =>
    refine rounded.div_powerOfTen ?_
    unfold greatestPower at *
    omega
  | succ rounds ih =>
    unfold Double.overPower
    split
    · next within => exact rounded.div_powerOfTen within
    · split
      · exact rounded
      · refine ih (rounded.div_powerOfTen le_rfl) ?_
        unfold greatestPower at *
        omega

theorem IsRounded.scaleByTen (exponent : Int) : (x.scaleByTen exponent).IsRounded := by
  unfold Double.scaleByTen
  dsimp only
  split
  · exact rounded.overPower le_rfl
  · split
    · next within => exact rounded.mul_powerOfTen within
    · split
      · exact rounded
      · exact .inr ⟨_, rfl⟩

end

theorem nearest_scaleDown_zero (negative : Bool) (den : Nat) (exponent : Int) :
    nearest negative (scaleDown 0 den exponent).1 (scaleDown 0 den exponent).2 =
      nearest negative 0 1 := by
  have none : (scaleDown 0 den exponent).1 = 0 := by
    unfold scaleDown
    split <;> simp
  simp [nearest, none]

/-- Zero stays zero. -/
theorem scaleByTen_zero (negative : Bool) (exponent : Int) :
    (nearest negative 0 1).scaleByTen exponent = nearest negative 0 1 := by
  have zero : nearest negative 0 1 = finite negative 0 minExponent := rfl
  have div : ∀ n ≤ greatestPower,
      (nearest negative 0 1).div (powerOfTen n) = nearest negative 0 1 := by
    intro n within
    obtain ⟨mantissa, places, power, some⟩ := exists_powerOfTen within
    rw [zero, power, Double.div, if_neg some, Bool.bne_false]
    exact nearest_scaleDown_zero _ _ _
  unfold scaleByTen
  dsimp only
  split
  · cases rounds : exponent.natAbs / greatestPower with
    | zero =>
      refine div _ ?_
      unfold greatestPower at *
      omega
    | succ rounds =>
      unfold overPower
      split
      · next within => exact div _ within
      · exact if_pos rfl
  · split
    · next within =>
      obtain ⟨mantissa, places, power, -⟩ := exists_powerOfTen within
      rw [zero, power, mul, Nat.zero_mul, Bool.bne_false]
      exact nearest_scaleDown_zero _ _ _
    · exact if_pos rfl

/-- A number of 53 bits with zeros behind them is a double. -/
theorem nearest_mul_two_pow (negative : Bool) {k : Nat} (short : k ≤ 2 ^ 53) {zeros : Nat}
    (few : zeros ≤ 900) : ∃ mantissa exponent,
      nearest negative (k * 2 ^ zeros) 1 = finite negative mantissa exponent ∧
        (mantissa : ℚ) * 2 ^ exponent = k * 2 ^ zeros := by
  have represented : ∀ {mantissa exponent},
      IsNormal (finite negative mantissa exponent) →
      (mantissa : ℚ) * 2 ^ exponent = k * 2 ^ zeros → ∃ mantissa exponent,
        nearest negative (k * 2 ^ zeros) 1 = finite negative mantissa exponent ∧
          (mantissa : ℚ) * 2 ^ exponent = k * 2 ^ zeros := by
    intro mantissa exponent normal value
    refine ⟨mantissa, exponent, nearest_eq_of_ratio negative one_pos normal ?_, value⟩
    rw [value]
    push_cast
    rw [div_one]
  rcases Nat.eq_zero_or_pos k with rfl | positive
  · exact @represented 0 minExponent (.intro (by norm_num) le_rfl (by decide) (.inl rfl)) (by simp)
  rcases short.lt_or_eq with less | rfl
  · -- The number is moved to the left until it fills the mantissa.
    have below : k.log2 < 53 := (Nat.log2_lt positive.ne').mpr less
    have lower := Nat.log2_self_le positive.ne'
    have upper := @Nat.lt_log2_self k
    have places : k.log2 + (52 - k.log2) = 52 := by omega
    refine @represented (k * 2 ^ (52 - k.log2)) ((zeros : Int) - (52 - k.log2 : Nat))
      (.intro ?_ ?_ ?_ (.inr ?_)) ?_
    · calc k * 2 ^ (52 - k.log2) < 2 ^ (k.log2 + 1) * 2 ^ (52 - k.log2) :=
            Nat.mul_lt_mul_of_pos_right upper (Nat.two_pow_pos _)
        _ = 2 ^ 53 := by rw [← pow_add]; congr 1; omega
    · unfold minExponent
      omega
    · unfold maxExponent
      omega
    · calc 2 ^ 52 = 2 ^ k.log2 * 2 ^ (52 - k.log2) := by rw [← pow_add, places]
        _ ≤ k * 2 ^ (52 - k.log2) := Nat.mul_le_mul_right _ lower
    · rw [zpow_sub₀ (by norm_num), zpow_natCast, zpow_natCast]
      push_cast
      field_simp
  · refine @represented (2 ^ 52) (zeros + 1) (.intro (by norm_num) ?_ ?_ (.inr le_rfl)) ?_
    · unfold minExponent
      omega
    · unfold maxExponent
      omega
    · rw [zpow_add₀ (by norm_num), zpow_natCast]
      push_cast
      ring

/-- The first powers of ten are doubles. -/
theorem powerOfTen_exact {n : Nat} (small : n ≤ 22) : ∃ mantissa exponent,
    powerOfTen n = finite false mantissa exponent ∧ (mantissa : ℚ) * 2 ^ exponent = 10 ^ n := by
  have five : 5 ^ n ≤ 2 ^ 53 :=
    (Nat.pow_le_pow_right (by norm_num) small).trans (by norm_num : 5 ^ 22 ≤ 2 ^ 53)
  have split : 10 ^ n = 5 ^ n * 2 ^ n := by rw [← Nat.mul_pow]
  obtain ⟨mantissa, exponent, power, value⟩ :=
    nearest_mul_two_pow false five (small.trans (by norm_num : 22 ≤ 900))
  refine ⟨mantissa, exponent, by rw [powerOfTen, split, power], ?_⟩
  rw [value]
  push_cast
  rw [← mul_pow]
  norm_num

/-- A quotient that has been scaled is nearest to the same double as another way to write it. -/
private theorem nearest_scaleDown {negative : Bool} {num den num' den' : Nat} {exponent : Int}
    (denPos : 0 < den) (denPos' : 0 < den')
    (same : (num : ℚ) / den / 2 ^ exponent = num' / den') :
    nearest negative (scaleDown num den exponent).1 (scaleDown num den exponent).2 =
      nearest negative num' den' := by
  have scaledPos := @scaleDown_pos num den denPos exponent
  refine nearest_congr negative scaledPos denPos' ?_
  rw [← scaleDown_ratio, div_eq_div_iff (by positivity) (by positivity)] at same
  exact_mod_cast same

/-- Short numbers that are scaled by small powers of ten are rounded once, so they come out as the
nearest double. -/
theorem scaleByTen_eq_ofDecimal (negative : Bool) {digits : Nat} (short : digits ≤ 2 ^ 53)
    {exponent : Int} (small : exponent.natAbs ≤ 22) :
    (nearest negative digits 1).scaleByTen exponent = ofDecimal negative digits exponent := by
  have target : ofDecimal negative digits exponent =
      nearest negative (digits * 10 ^ exponent.toNat) (10 ^ (-exponent).toNat) := by
    by_cases zero : digits = 0
    · simp [zero, ofDecimal, nearest]
    · exact ofDecimal_eq_nearest negative zero exponent
  obtain ⟨m, e, number, value⟩ := nearest_mul_two_pow negative short (Nat.zero_le 900)
  obtain ⟨p, f, power, value'⟩ := powerOfTen_exact small
  rw [pow_zero, Nat.mul_one] at number
  rw [pow_zero, mul_one] at value
  have some : p ≠ 0 := by
    rintro rfl
    rw [Nat.cast_zero, zero_mul] at value'
    exact absurd value'.symm (by positivity)
  rw [target, number, scaleByTen]
  split
  · next below =>
    have none : exponent.toNat = 0 := by omega
    have places : (-exponent).toNat = exponent.natAbs := by omega
    rw [none, places, Nat.div_eq_of_lt (by unfold greatestPower; omega), overPower, power, div,
      if_neg some, Bool.bne_false]
    refine nearest_scaleDown (Nat.pos_of_ne_zero some) (Nat.pow_pos (by norm_num)) ?_
    push_cast
    rw [mul_one, ← value', ← value, zpow_sub₀ (by norm_num)]
    have := zpow_ne_zero e (two_ne_zero : (2 : ℚ) ≠ 0)
    field_simp
  · next above =>
    have none : (-exponent).toNat = 0 := by omega
    have places : exponent.toNat = exponent.natAbs := by omega
    have within : exponent.natAbs ≤ greatestPower := small.trans (by decide)
    rw [if_pos within, none, places, power, mul, Bool.bne_false]
    refine nearest_scaleDown one_pos (Nat.pow_pos (by norm_num : 0 < 10)) ?_
    push_cast
    rw [div_one, div_one, ← value', ← value, zpow_neg, zpow_add₀ (by norm_num)]
    field_simp

end LocaleLint.Double
