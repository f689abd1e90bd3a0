import Mathlib
import LocaleLint.Proofs.Number.Rounding

/-!
# How near the nearest double is

The double nearest to a number between zero and one is so too, and differs from the number by at
most `2 ^ -53`. The same holds for the complement of such a double and the exact difference.
-/

namespace LocaleLint.Double

/-- The number that a finite double stands for. -/
def value (x : Double) : ℚ := x.units * 2 ^ minExponent

theorem value_finite {mantissa : Nat} {exponent : Int} (least : minExponent ≤ exponent) :
    value (finite false mantissa exponent) = mantissa * 2 ^ exponent := by
  obtain ⟨k, rfl⟩ : ∃ k : Nat, exponent = k + minExponent :=
    ⟨(exponent - minExponent).toNat, by omega⟩
  simp only [value, units, Bool.false_eq_true, if_false, add_sub_cancel_right, Int.toNat_natCast]
  rw [zpow_add₀ (by norm_num), zpow_natCast]
  push_cast
  ring

/-- A double between zero and one that differs from a number by an error at most. -/
structure Approximates (x : Double) (number error : ℚ) : Prop where
  normal : IsNormal x
  nonneg : 0 ≤ x.value
  atMost : x.value ≤ 1
  near : |x.value - number| ≤ error

theorem one_approximates {error : ℚ} (nonneg : 0 ≤ error) : Double.one.Approximates 1 error := by
  have one : Double.one = finite false (2 ^ 52) (-52) := rfl
  have normal : IsNormal Double.one := one ▸ .intro (by decide) (by decide) (by decide) (.inr le_rfl)
  have value : Double.one.value = 1 := by
    rw [one, value_finite (by decide)]
    norm_num
  exact ⟨normal, by rw [value]; exact zero_le_one, value.le, by simpa [value] using nonneg⟩

theorem roundQuotient_near {n d : Nat} (positive : 0 < d) :
    |(roundQuotient n d : ℚ) - n / d| ≤ 1 / 2 := by
  have denPos : (0 : ℚ) < d := by exact_mod_cast positive
  have split : (n : ℚ) / d = (n / d : Nat) + (n % d : Nat) / d := by
    rw [div_eq_iff denPos.ne', add_mul, div_mul_cancel₀ _ denPos.ne']
    exact_mod_cast (Nat.div_add_mod' n d).symm
  have remainder : ((n % d : Nat) : ℚ) / d < 1 := by
    rw [div_lt_one denPos]
    exact_mod_cast Nat.mod_lt n positive
  have nonneg : 0 ≤ ((n % d : Nat) : ℚ) / d := by positivity
  rw [split, abs_le]
  unfold roundQuotient
  dsimp only
  split_ifs with below above
  · have half : ((n % d : Nat) : ℚ) / d ≤ 1 / 2 := by
      rw [div_le_iff₀ denPos]
      have : (2 * (n % d) : Nat) ≤ (d : ℚ) := by exact_mod_cast below.le
      push_cast at this
      linarith
    constructor <;> linarith
  · have half : 1 / 2 ≤ ((n % d : Nat) : ℚ) / d := by
      rw [le_div_iff₀ denPos]
      have : (d : ℚ) ≤ (2 * (n % d) : Nat) := by exact_mod_cast above.le
      push_cast at this
      linarith
    push_cast
    constructor <;> linarith
  · have half : ((n % d : Nat) : ℚ) / d = 1 / 2 := by
      rw [div_eq_iff denPos.ne']
      have : ((2 * (n % d) : Nat) : ℚ) = d := by exact_mod_cast (by omega : 2 * (n % d) = d)
      push_cast at this
      linarith
    have even : ((n / d % 2 : Nat) : ℚ) ≤ 1 := by exact_mod_cast (by omega : n / d % 2 ≤ 1)
    have nonneg : (0 : ℚ) ≤ (n / d % 2 : Nat) := by positivity
    push_cast at *
    constructor <;> linarith

theorem roundQuotient_le {n d k : Nat} (positive : 0 < d) (bound : n ≤ k * d) :
    roundQuotient n d ≤ k := by
  have below : n / d ≤ k := Nat.div_le_of_le_mul (by rwa [Nat.mul_comm])
  obtain ⟨-, upper⟩ := roundQuotient_bounds n d
  rcases below.lt_or_eq with less | same
  · omega
  · have exact : n % d = 0 := by
      have whole := Nat.div_add_mod' n d
      rw [same] at whole
      omega
    simp [roundQuotient, exact, same, positive]

/-- A fraction has an exponent that makes its mantissa at least as fine as `2 ^ -52`. -/
theorem exponentFor_fraction {num den : Nat} (numPos : 0 < num) (denPos : 0 < den)
    (fraction : (num : ℚ) / den ≤ 1) : exponentFor num den ≤ -52 := by
  rcases (exponentFor_fits numPos denPos).full with least | enough
  · rw [least]
    decide
  · by_contra large
    have above : (1 : ℚ) < 2 ^ (exponentFor num den + 52) :=
      one_lt_zpow₀ (by norm_num) (by omega)
    linarith

/-- The nearest double stands for the rounded mantissa, also if that takes one bit more. -/
theorem value_nearest {num den : Nat} (numPos : 0 < num) (denPos : 0 < den)
    (small : exponentFor num den < maxExponent) :
    ∃ n d : Nat, 0 < d ∧ (n : ℚ) / d = num / den / 2 ^ exponentFor num den ∧
      (nearest false num den).value = roundQuotient n d * 2 ^ exponentFor num den := by
  have least := (exponentFor_fits numPos denPos).least
  refine ⟨_, _, scaleDown_pos denPos _, scaleDown_ratio num den (exponentFor num den), ?_⟩
  simp only [nearest, numPos.ne', if_false]
  generalize roundQuotient _ _ = rounded
  by_cases carry : rounded = 2 ^ 53
  · simp only [carry, if_true]
    rw [if_neg (by omega), value_finite (by omega), zpow_add₀ (by norm_num)]
    push_cast
    ring
  · simp only [carry, if_false]
    rw [if_neg (by omega), value_finite least]

theorem isNormal_nearest {num den : Nat} (denPos : 0 < den) (fraction : (num : ℚ) / den ≤ 1) :
    IsNormal (nearest false num den) :=
  nearest_isNormal_of_small false denPos
    (fraction.trans_lt (one_lt_zpow₀ (by norm_num) (by norm_num)))

/-- The double nearest to a fraction is between zero and one, and near the fraction. -/
theorem nearest_approximates {num den : Nat} (denPos : 0 < den)
    (fraction : (num : ℚ) / den ≤ 1) :
    (nearest false num den).Approximates (num / den) (1 / 2 ^ 53) := by
  have normal := isNormal_nearest denPos fraction
  rcases Nat.eq_zero_or_pos num with rfl | numPos
  · exact ⟨normal, by simp [nearest, value_finite], by simp [nearest, value_finite],
      by simp [nearest, value_finite]⟩
  have fine := exponentFor_fraction numPos denPos fraction
  obtain ⟨n, d, positive, ratio, rounded⟩ :=
    value_nearest numPos denPos (by unfold maxExponent; omega)
  generalize exponentFor num den = exponent at *
  have power : (0 : ℚ) < 2 ^ exponent := zpow_pos (by norm_num) exponent
  refine ⟨normal, by rw [rounded]; positivity, ?_, ?_⟩
  · -- One is a natural number of such powers of two, and rounding does not pass it.
    obtain ⟨k, rfl⟩ : ∃ k : Nat, exponent = -(k : Int) := ⟨(-exponent).toNat, by omega⟩
    have bound : n ≤ 2 ^ k * d := by
      have denCast : (0 : ℚ) < d := by exact_mod_cast positive
      have scaled : (n : ℚ) / d ≤ 2 ^ k := by
        rw [ratio, zpow_neg, div_inv_eq_mul, zpow_natCast]
        exact mul_le_of_le_one_left (by positivity) fraction
      rw [div_le_iff₀ denCast] at scaled
      exact_mod_cast scaled
    have atMost : (roundQuotient n d : ℚ) ≤ 2 ^ k := by
      exact_mod_cast roundQuotient_le positive bound
    rw [rounded, zpow_neg, zpow_natCast, ← div_eq_mul_inv]
    exact div_le_one_of_le₀ atMost (by positivity)
  · have near := roundQuotient_near (n := n) positive
    rw [ratio] at near
    rw [rounded]
    calc |(roundQuotient n d : ℚ) * 2 ^ exponent - num / den|
        = |(roundQuotient n d : ℚ) - num / den / 2 ^ exponent| * 2 ^ exponent := by
          rw [← abs_of_pos power, ← abs_mul, abs_of_pos power, sub_mul,
            div_mul_cancel₀ _ power.ne']
      _ ≤ 1 / 2 * 2 ^ (-52 : Int) :=
          mul_le_mul near (zpow_le_zpow_right₀ (by norm_num) fine) power.le (by norm_num)
      _ = 1 / 2 ^ 53 := by norm_num

theorem nearest_sub_approximates {k scale : Nat} (positive : 0 < scale) (fits : k ≤ scale) :
    (nearest false (scale - k) scale).Approximates (1 - k / scale) (1 / 2 ^ 53) := by
  have scaleCast : (0 : ℚ) < scale := by exact_mod_cast positive
  have ratio : ((scale - k : Nat) : ℚ) / scale = 1 - k / scale := by
    rw [Nat.cast_sub fits, sub_div, div_self scaleCast.ne']
  exact ratio ▸ nearest_approximates positive (ratio.trans_le (sub_le_self 1 (by positivity)))

-- The power is that of the core library, as in the definition.
attribute [local instance (high)] instPowNat in
theorem exists_complement_eq (x : Double) : ∃ places : Nat, minExponent = -(places : Int) ∧
    x.complement = nearest false (2 ^ places - x.units.toNat) (2 ^ places) :=
  ⟨1074, rfl, rfl⟩

/-- The complement of a double between zero and one is so too, and near the exact difference. -/
theorem complement_approximates {x : Double} (nonneg : 0 ≤ x.value) (atMost : x.value ≤ 1) :
    x.complement.Approximates (1 - x.value) (1 / 2 ^ 53) := by
  obtain ⟨places, least, same⟩ := exists_complement_eq x
  have scaled : x.value = x.units / (2 ^ places : Nat) := by
    rw [value, least, zpow_neg, ← div_eq_mul_inv, zpow_natCast, Nat.cast_pow, Nat.cast_ofNat]
  have scaleCast : (0 : ℚ) < (2 ^ places : Nat) := by positivity
  have counted : (0 : ℚ) ≤ x.units := by
    rw [scaled, le_div_iff₀ scaleCast, zero_mul] at nonneg
    exact nonneg
  obtain ⟨k, units⟩ := Int.eq_ofNat_of_zero_le (Int.cast_nonneg_iff.mp counted)
  have fits : k ≤ 2 ^ places := by
    rw [scaled, units, div_le_one scaleCast, Int.cast_natCast, Nat.cast_le] at atMost
    exact atMost
  rw [same, scaled, units]
  exact nearest_sub_approximates (Nat.two_pow_pos places) fits

end LocaleLint.Double
