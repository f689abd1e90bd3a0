import Mathlib
import LocaleLint.Number.Double

/-!
# Rounding to doubles

The exponent that a quotient is given is the only one that leaves a mantissa of 53 bits, so the
nearest double depends on the quotient only, not on how it is written, and a double is the nearest
one to itself. What is read as `digits * 10 ^ scale` is the nearest double to that number, also
beyond the bounds where the reading is cut short.
-/

namespace LocaleLint.Double

/-- The doubles that rounding gives and that are finite. -/
inductive IsNormal : Double → Prop where
  | intro {negative : Bool} {mantissa : Nat} {exponent : Int} (short : mantissa < 2 ^ 53)
      (least : minExponent ≤ exponent) (greatest : exponent ≤ maxExponent)
      (full : exponent = minExponent ∨ 2 ^ 52 ≤ mantissa) :
      IsNormal (finite negative mantissa exponent)

/-- The exponent leaves a quotient a mantissa of at most 53 bits, and no fewer unless it is the
least exponent. -/
structure Fits (num den : Nat) (exponent : Int) : Prop where
  least : minExponent ≤ exponent
  short : (num : ℚ) / den < 2 ^ (exponent + 53)
  full : exponent = minExponent ∨ (2 : ℚ) ^ (exponent + 52) ≤ num / den

theorem Fits.unique {num den : Nat} {e₁ e₂ : Int} (left : Fits num den e₁)
    (right : Fits num den e₂) : e₁ = e₂ := by
  have ordered : ∀ {a b : Int}, Fits num den a → Fits num den b → ¬ a < b := by
    intro a b lower upper less
    rcases upper.full with atLeast | enough
    · have := lower.least
      omega
    · have step : (2 : ℚ) ^ (a + 53) ≤ 2 ^ (b + 52) := zpow_le_zpow_right₀ (by norm_num) (by omega)
      exact absurd (enough.trans_lt lower.short) (not_lt.mpr step)
  have notLess := ordered left right
  have notGreater := ordered right left
  omega

theorem scaleDown_pos {num den : Nat} (positive : 0 < den) (exponent : Int) :
    0 < (scaleDown num den exponent).2 := by
  unfold scaleDown
  split
  · exact Nat.mul_pos positive (Nat.two_pow_pos _)
  · exact positive

/-- Scaling divides a quotient by the power of two. -/
theorem scaleDown_ratio (num den : Nat) (exponent : Int) :
    ((scaleDown num den exponent).1 : ℚ) / (scaleDown num den exponent).2 =
      (num : ℚ) / den / 2 ^ exponent := by
  unfold scaleDown
  split
  case isTrue nonneg =>
    obtain ⟨k, rfl⟩ := Int.eq_ofNat_of_zero_le nonneg
    simp only [Int.toNat_natCast, Nat.cast_mul, Nat.cast_pow, Nat.cast_ofNat, zpow_natCast]
    rw [div_div]
  case isFalse negative =>
    obtain ⟨k, rfl⟩ : ∃ k : Nat, exponent = -(k : Int) := ⟨(-exponent).toNat, by omega⟩
    simp only [neg_neg, Int.toNat_natCast, Nat.cast_mul, Nat.cast_pow, Nat.cast_ofNat, zpow_neg,
      zpow_natCast, div_inv_eq_mul]
    ring

theorem div_lt_two_pow_iff {num den : Nat} (positive : 0 < den) (exponent : Int) :
    (scaleDown num den exponent).1 / (scaleDown num den exponent).2 < 2 ^ 53 ↔
      (num : ℚ) / den < 2 ^ (exponent + 53) := by
  have scaled : 0 < (scaleDown num den exponent).2 := scaleDown_pos positive exponent
  have scaledCast : (0 : ℚ) < (scaleDown num den exponent).2 := by exact_mod_cast scaled
  have power : (0 : ℚ) < 2 ^ exponent := zpow_pos (by norm_num) exponent
  rw [Nat.div_lt_iff_lt_mul scaled, zpow_add₀ (by norm_num), ← div_lt_iff₀' power,
    ← scaleDown_ratio, div_lt_iff₀ scaledCast]
  norm_cast

private theorem two_pow_log2_le {n : Nat} (positive : 0 < n) : (2 : ℚ) ^ (n.log2 : Int) ≤ n := by
  rw [zpow_natCast]
  exact_mod_cast Nat.log2_self_le (by omega)

private theorem lt_two_pow_log2 (n : Nat) : (n : ℚ) < 2 ^ ((n.log2 : Int) + 1) := by
  have bound : n < 2 ^ (n.log2 + 1) := Nat.lt_log2_self
  have cast : ((n.log2 : Int) + 1) = ((n.log2 + 1 : Nat) : Int) := by push_cast; rfl
  rw [cast, zpow_natCast]
  exact_mod_cast bound

/-- A quotient lies within a factor of two of the quotient of the leading powers of two. -/
theorem ratio_bounds {num den : Nat} (numPos : 0 < num) (denPos : 0 < den) :
    (2 : ℚ) ^ ((num.log2 : Int) - den.log2 - 1) < num / den ∧
      (num : ℚ) / den < 2 ^ ((num.log2 : Int) - den.log2 + 1) := by
  have denCast : (0 : ℚ) < den := by exact_mod_cast denPos
  have two : (2 : ℚ) ≠ 0 := by norm_num
  constructor
  · rw [lt_div_iff₀ denCast]
    calc (2 : ℚ) ^ ((num.log2 : Int) - den.log2 - 1) * den
        < 2 ^ ((num.log2 : Int) - den.log2 - 1) * 2 ^ ((den.log2 : Int) + 1) := by
          exact mul_lt_mul_of_pos_left (lt_two_pow_log2 den) (zpow_pos (by norm_num) _)
      _ = 2 ^ (num.log2 : Int) := by rw [← zpow_add₀ two]; congr 1; ring
      _ ≤ num := two_pow_log2_le numPos
  · rw [div_lt_iff₀ denCast]
    calc (num : ℚ) < 2 ^ ((num.log2 : Int) + 1) := lt_two_pow_log2 num
      _ = 2 ^ ((num.log2 : Int) - den.log2 + 1) * 2 ^ (den.log2 : Int) := by
          rw [← zpow_add₀ two]; congr 1; ring
      _ ≤ 2 ^ ((num.log2 : Int) - den.log2 + 1) * den := by
          exact mul_le_mul_of_nonneg_left (two_pow_log2_le denPos) (zpow_pos (by norm_num) _).le

theorem exponentFor_fits {num den : Nat} (numPos : 0 < num) (denPos : 0 < den) :
    Fits num den (exponentFor num den) := by
  obtain ⟨lower, upper⟩ := ratio_bounds numPos denPos
  have decided := @div_lt_two_pow_iff num den denPos
    (max minExponent ((num.log2 : Int) - (den.log2 : Int) - 53))
  have least : minExponent ≤ max minExponent ((num.log2 : Int) - (den.log2 : Int) - 53) :=
    le_max_left ..
  unfold exponentFor
  generalize guessed : max minExponent ((num.log2 : Int) - (den.log2 : Int) - 53) = guess at *
  have monotone : ∀ {a b : Int}, a ≤ b → (2 : ℚ) ^ a ≤ 2 ^ b := fun le =>
    zpow_le_zpow_right₀ (by norm_num) le
  dsimp only
  split
  case isTrue below =>
    refine ⟨least, decided.mp below, ?_⟩
    by_cases atLeast : guess = minExponent
    · exact .inl atLeast
    · right
      have exact : guess = (num.log2 : Int) - den.log2 - 53 := by omega
      exact (monotone (by omega)).trans lower.le
  case isFalse above =>
    have enough : (2 : ℚ) ^ (guess + 53) ≤ num / den :=
      not_lt.mp fun less => above (decided.mpr less)
    refine ⟨by omega, upper.trans_le (monotone (by omega)), .inr ?_⟩
    exact (monotone (by omega)).trans enough

theorem roundQuotient_congr {n d n' d' : Nat} (dPos : 0 < d) (dPos' : 0 < d')
    (same : n * d' = n' * d) : roundQuotient n d = roundQuotient n' d' := by
  have scaled : ∀ {k : Nat} (num den : Nat), 0 < k →
      roundQuotient (k * num) (k * den) = roundQuotient num den := by
    intro k num den positive
    have twice : 2 * (k * num % (k * den)) = k * (2 * (num % den)) := by
      rw [Nat.mul_mod_mul_left]
      ring
    simp only [roundQuotient, Nat.mul_div_mul_left _ _ positive, twice,
      Nat.mul_lt_mul_left positive]
  rw [← scaled n d dPos', ← scaled n' d' dPos, Nat.mul_comm d' n, Nat.mul_comm d n', same,
    Nat.mul_comm d' d]

theorem exponentFor_congr {num den num' den' : Nat} (numPos : 0 < num) (denPos : 0 < den)
    (numPos' : 0 < num') (denPos' : 0 < den') (same : (num : ℚ) / den = num' / den') :
    exponentFor num den = exponentFor num' den' := by
  have fits := exponentFor_fits numPos denPos
  have fits' := exponentFor_fits numPos' denPos'
  exact Fits.unique fits ⟨fits'.least, same ▸ fits'.short, same ▸ fits'.full⟩

/-- The nearest double depends on the quotient only. -/
theorem nearest_congr {num den num' den' : Nat} (negative : Bool) (denPos : 0 < den)
    (denPos' : 0 < den') (same : num * den' = num' * den) :
    nearest negative num den = nearest negative num' den' := by
  by_cases zero : num = 0
  · have zero' : num' = 0 := by
      rw [zero, Nat.zero_mul] at same
      exact (Nat.mul_eq_zero.mp same.symm).resolve_right (by omega)
    simp [nearest, zero, zero']
  · have zero' : num' ≠ 0 := by
      rintro rfl
      rw [Nat.zero_mul] at same
      exact zero ((Nat.mul_eq_zero.mp same).resolve_right (by omega))
    have denCast : (den : ℚ) ≠ 0 := by positivity
    have denCast' : (den' : ℚ) ≠ 0 := by positivity
    have ratio : (num : ℚ) / den = num' / den' := by
      rw [div_eq_div_iff denCast denCast']
      exact_mod_cast same
    have exponents := exponentFor_congr (by omega) denPos (by omega) denPos' ratio
    have pos := @scaleDown_pos num den denPos (exponentFor num den)
    have pos' := @scaleDown_pos num' den' denPos' (exponentFor num den)
    have rounded : roundQuotient (scaleDown num den (exponentFor num den)).1
        (scaleDown num den (exponentFor num den)).2 =
        roundQuotient (scaleDown num' den' (exponentFor num den)).1
        (scaleDown num' den' (exponentFor num den)).2 := by
      apply roundQuotient_congr pos pos'
      have scaled : ((scaleDown num den (exponentFor num den)).1 : ℚ) /
          (scaleDown num den (exponentFor num den)).2 =
          (scaleDown num' den' (exponentFor num den)).1 /
          (scaleDown num' den' (exponentFor num den)).2 := by
        rw [scaleDown_ratio, scaleDown_ratio, ratio]
      rw [div_eq_div_iff (by positivity) (by positivity)] at scaled
      exact_mod_cast scaled
    simp only [nearest, zero, zero', if_false, ← exponents, rounded]

theorem roundQuotient_bounds (n d : Nat) :
    n / d ≤ roundQuotient n d ∧ roundQuotient n d ≤ n / d + 1 := by
  unfold roundQuotient
  dsimp only
  split
  · omega
  · split <;> omega

theorem two_pow_le_div_iff {num den : Nat} (positive : 0 < den) (exponent : Int) :
    2 ^ 52 ≤ (scaleDown num den exponent).1 / (scaleDown num den exponent).2 ↔
      (2 : ℚ) ^ (exponent + 52) ≤ num / den := by
  have scaled : 0 < (scaleDown num den exponent).2 := scaleDown_pos positive exponent
  have scaledCast : (0 : ℚ) < (scaleDown num den exponent).2 := by exact_mod_cast scaled
  have power : (0 : ℚ) < 2 ^ exponent := zpow_pos (by norm_num) exponent
  rw [Nat.le_div_iff_mul_le scaled, zpow_add₀ (by norm_num), ← le_div_iff₀' power,
    ← scaleDown_ratio, le_div_iff₀ scaledCast]
  norm_cast

/-- Rounding gives a normal double, unless the quotient is too large. -/
theorem nearest_isNormal {num den : Nat} (negative : Bool) (denPos : 0 < den) :
    IsNormal (nearest negative num den) ∨ nearest negative num den = infinite negative := by
  by_cases zero : num = 0
  · left
    simp only [nearest, zero, if_true]
    exact .intro (by norm_num) le_rfl (by decide) (.inl rfl)
  · have fits := exponentFor_fits (Nat.pos_of_ne_zero zero) denPos
    have short := (div_lt_two_pow_iff denPos _).mpr fits.short
    obtain ⟨lower, upper⟩ := roundQuotient_bounds
      (scaleDown num den (exponentFor num den)).1 (scaleDown num den (exponentFor num den)).2
    simp only [nearest, zero, if_false]
    generalize roundQuotient _ _ = rounded at *
    have least := fits.least
    by_cases carry : rounded = 2 ^ 53
    · simp only [carry, if_true]
      split
      · exact .inr rfl
      · exact .inl (.intro (by norm_num) (by omega) (by omega) (.inr le_rfl))
    · simp only [carry, if_false]
      split
      · exact .inr rfl
      · refine .inl (.intro (by omega) least (by omega) ?_)
        rcases fits.full with atLeast | enough
        · exact .inl atLeast
        · have full := (two_pow_le_div_iff denPos _).mpr enough
          exact .inr (by omega)

/-- A normal double is the nearest one to its own magnitude. -/
theorem nearest_eq_of_ratio {num den mantissa : Nat} {exponent : Int} (negative : Bool)
    (denPos : 0 < den) (normal : IsNormal (finite negative mantissa exponent))
    (ratio : (num : ℚ) / den = mantissa * 2 ^ exponent) :
    nearest negative num den = finite negative mantissa exponent := by
  obtain ⟨short, least, greatest, full⟩ := normal
  have denCast : (0 : ℚ) < den := by exact_mod_cast denPos
  have power : (0 : ℚ) < 2 ^ exponent := zpow_pos (by norm_num) exponent
  by_cases zero : mantissa = 0
  · have numZero : num = 0 := by
      rw [zero, Nat.cast_zero, zero_mul, div_eq_zero_iff] at ratio
      exact_mod_cast ratio.resolve_right denCast.ne'
    have atLeast : exponent = minExponent := full.resolve_right (by omega)
    simp [nearest, numZero, zero, atLeast]
  · have numPos : 0 < num := by
      rcases Nat.eq_zero_or_pos num with numZero | positive
      · rw [numZero, Nat.cast_zero, zero_div] at ratio
        have : (0 : ℚ) < mantissa * 2 ^ exponent := by positivity
        linarith
      · exact positive
    have fits : Fits num den exponent := by
      refine ⟨least, ?_, full.imp id fun enough => ?_⟩
      · rw [ratio, zpow_add₀ (by norm_num), mul_comm]
        exact mul_lt_mul_of_pos_left (by exact_mod_cast short) power
      · rw [ratio, zpow_add₀ (by norm_num), mul_comm (mantissa : ℚ)]
        exact mul_le_mul_of_nonneg_left (by exact_mod_cast enough) power.le
    have chosen : exponentFor num den = exponent :=
      (exponentFor_fits numPos denPos).unique fits
    have scaledPos := @scaleDown_pos num den denPos exponent
    have scaled : (scaleDown num den exponent).1 = mantissa * (scaleDown num den exponent).2 := by
      have quotient := scaleDown_ratio num den exponent
      rw [ratio, mul_div_assoc, div_self power.ne', mul_one,
        div_eq_iff (by exact_mod_cast scaledPos.ne')] at quotient
      exact_mod_cast quotient
    have rounded : roundQuotient (scaleDown num den exponent).1 (scaleDown num den exponent).2 =
        mantissa := by
      simp only [roundQuotient, scaled, Nat.mul_div_cancel _ scaledPos, Nat.mul_mod_left,
        Nat.mul_zero, scaledPos, if_true]
    have noCarry : mantissa ≠ 2 ^ 53 := by omega
    simp only [nearest, show num ≠ 0 by omega, if_false, chosen, rounded, noCarry,
      not_lt.mpr greatest]

/-- A quotient that is too large for a finite double. -/
theorem nearest_eq_infinite {num den : Nat} (negative : Bool) (denPos : 0 < den)
    (large : (2 : ℚ) ^ (1024 : Int) ≤ num / den) :
    nearest negative num den = infinite negative := by
  have zero : num ≠ 0 := by
    rintro rfl
    rw [Nat.cast_zero, zero_div] at large
    exact absurd large (not_le.mpr (zpow_pos (by norm_num) _))
  have fits := exponentFor_fits (Nat.pos_of_ne_zero zero) denPos
  have beyond : maxExponent < exponentFor num den := by
    by_contra within
    have step : (2 : ℚ) ^ (exponentFor num den + 53) ≤ 2 ^ (1024 : Int) :=
      zpow_le_zpow_right₀ (by norm_num) (by unfold maxExponent at within; omega)
    exact absurd (large.trans_lt fits.short) (not_lt.mpr step)
  simp only [nearest, zero, if_false]
  generalize roundQuotient _ _ = rounded
  by_cases carry : rounded = 2 ^ 53
  · simp only [carry, if_true]
    exact if_pos (by omega)
  · simp only [carry, if_false]
    exact if_pos beyond

/-- A quotient that is too small for a double other than zero. -/
theorem nearest_eq_zero {num den : Nat} (negative : Bool) (denPos : 0 < den)
    (small : (num : ℚ) / den < 2 ^ (-1075 : Int)) :
    nearest negative num den = finite negative 0 minExponent := by
  by_cases zero : num = 0
  · simp only [nearest, zero, if_true]
  · have monotone : (2 : ℚ) ^ (-1075 : Int) ≤ 2 ^ (minExponent + 53) :=
      zpow_le_zpow_right₀ (by norm_num) (by decide)
    have chosen : exponentFor num den = minExponent :=
      (exponentFor_fits (by omega) denPos).unique ⟨le_rfl, small.trans_le monotone, .inl rfl⟩
    have scaledPos := @scaleDown_pos num den denPos minExponent
    have scaledCast : (0 : ℚ) < (scaleDown num den minExponent).2 := by exact_mod_cast scaledPos
    have twice : 2 * (scaleDown num den minExponent).1 < (scaleDown num den minExponent).2 := by
      have power : (0 : ℚ) < 2 ^ minExponent := zpow_pos (by norm_num) _
      have quotient := scaleDown_ratio num den minExponent
      have half : (num : ℚ) / den / 2 ^ minExponent < 1 / 2 := by
        rw [div_lt_iff₀ power]
        calc (num : ℚ) / den < 2 ^ (-1075 : Int) := small
          _ = 1 / 2 * 2 ^ minExponent := by
              rw [show (-1075 : Int) = -1 + minExponent from rfl, zpow_add₀ (by norm_num),
                zpow_neg_one, one_div]
      rw [← quotient, div_lt_iff₀ scaledCast] at half
      have doubled : (2 : ℚ) * (scaleDown num den minExponent).1 <
          (scaleDown num den minExponent).2 := by linarith
      exact_mod_cast doubled
    have rounded : roundQuotient (scaleDown num den minExponent).1
        (scaleDown num den minExponent).2 = 0 := by
      have less : (scaleDown num den minExponent).1 < (scaleDown num den minExponent).2 := by omega
      simp only [roundQuotient, Nat.mod_eq_of_lt less, twice, if_true, Nat.div_eq_of_lt less]
    simp only [nearest, zero, if_false, chosen, rounded]
    rfl

/-- A quotient that is not too large for a finite double. -/
theorem nearest_isNormal_of_small {num den : Nat} (negative : Bool) (denPos : 0 < den)
    (small : (num : ℚ) / den < 2 ^ (1023 : Int)) : IsNormal (nearest negative num den) := by
  refine (nearest_isNormal negative denPos).resolve_right ?_
  by_cases zero : num = 0
  · simp [nearest, zero]
  · have fits := exponentFor_fits (Nat.pos_of_ne_zero zero) denPos
    have within : exponentFor num den < maxExponent := by
      rcases fits.full with atLeast | enough
      · rw [atLeast]; decide
      · by_contra beyond
        have step : (2 : ℚ) ^ (1023 : Int) ≤ 2 ^ (exponentFor num den + 52) :=
          zpow_le_zpow_right₀ (by norm_num) (by unfold maxExponent at beyond; omega)
        exact absurd (enough.trans_lt small) (not_lt.mpr step)
    simp only [nearest, zero, if_false]
    generalize roundQuotient _ _ = rounded
    by_cases carry : rounded = 2 ^ 53
    · simp only [carry, if_true]
      rw [if_neg (by omega)]
      simp
    · simp only [carry, if_false]
      rw [if_neg (by omega)]
      simp

theorem two_pow_le_ten_pow : (2 : ℚ) ^ (1024 : Int) ≤ 10 ^ 400 := by
  calc (2 : ℚ) ^ (1024 : Int) ≤ 2 ^ ((3 * 400 : Nat) : Int) :=
        zpow_le_zpow_right₀ (by norm_num) (by norm_num)
    _ = (2 ^ 3) ^ 400 := by rw [zpow_natCast, pow_mul]
    _ ≤ 10 ^ 400 := pow_le_pow_left₀ (by norm_num) (by norm_num) 400

/-- The bounds of the reading of decimals cut short what rounding gives anyway. -/
theorem ofDecimal_eq_nearest {digits : Nat} (negative : Bool) (positive : digits ≠ 0)
    (scale : Int) :
    ofDecimal negative digits scale =
      nearest negative (digits * 10 ^ scale.toNat) (10 ^ (-scale).toNat) := by
  have digitsCast : (1 : ℚ) ≤ digits := by exact_mod_cast Nat.one_le_iff_ne_zero.mpr positive
  unfold ofDecimal
  rw [if_neg positive]
  by_cases large : 400 < scale
  · rw [if_pos large]
    obtain ⟨k, rfl⟩ := Int.eq_ofNat_of_zero_le (show 0 ≤ scale by omega)
    have none : (-(k : Int)).toNat = 0 := by omega
    symm
    apply nearest_eq_infinite negative (by positivity)
    rw [Int.toNat_natCast, none, pow_zero, Nat.cast_one, div_one]
    have enough : 400 ≤ k := by omega
    calc (2 : ℚ) ^ (1024 : Int) ≤ 1 * 10 ^ 400 := by rw [one_mul]; exact two_pow_le_ten_pow
      _ ≤ digits * 10 ^ k := mul_le_mul digitsCast (pow_le_pow_right₀ (by norm_num) enough)
          (by positivity) (by positivity)
      _ = ((digits * 10 ^ k : Nat) : ℚ) := by push_cast; rfl
  · rw [if_neg large]
    by_cases small : scale + (digits.log2 : Int) < -1200
    · rw [if_pos small]
      obtain ⟨k, rfl⟩ : ∃ k : Nat, scale = -(k : Int) := ⟨(-scale).toNat, by omega⟩
      have none : (-(k : Int)).toNat = 0 := by omega
      have zero : nearest negative 0 1 = finite negative 0 minExponent := rfl
      rw [zero]
      symm
      apply nearest_eq_zero negative (by positivity)
      rw [none, pow_zero, Nat.mul_one, neg_neg, Int.toNat_natCast, Nat.cast_pow, Nat.cast_ofNat,
        div_lt_iff₀ (by positivity)]
      calc (digits : ℚ) < 2 ^ ((digits.log2 : Int) + 1) := lt_two_pow_log2 digits
        _ ≤ 2 ^ ((-1075 : Int) + k) := zpow_le_zpow_right₀ (by norm_num) (by omega)
        _ = 2 ^ (-1075 : Int) * 2 ^ k := by rw [zpow_add₀ (by norm_num), zpow_natCast]
        _ ≤ 2 ^ (-1075 : Int) * 10 ^ k := by gcongr; norm_num
    · rw [if_neg small]
      split
      case isTrue nonneg => simp [show (-scale).toNat = 0 by omega]
      case isFalse below => simp [show scale.toNat = 0 by omega]

/-- Zeros at the end of the digits are as good as a greater scale. -/
theorem ofDecimal_mul_pow (negative : Bool) (digits zeros : Nat) (scale : Int) :
    ofDecimal negative (digits * 10 ^ zeros) (scale - zeros) = ofDecimal negative digits scale := by
  by_cases positive : digits = 0
  · simp [ofDecimal, positive]
  · have shifted : digits * 10 ^ zeros ≠ 0 := by positivity
    rw [ofDecimal_eq_nearest negative shifted, ofDecimal_eq_nearest negative positive]
    apply nearest_congr negative (by positivity) (by positivity)
    have exponents : zeros + (scale - zeros).toNat + (-scale).toNat =
        scale.toNat + (-(scale - zeros)).toNat := by omega
    calc digits * 10 ^ zeros * 10 ^ (scale - zeros).toNat * 10 ^ (-scale).toNat
        = digits * 10 ^ (zeros + (scale - zeros).toNat + (-scale).toNat) := by
          rw [pow_add, pow_add]; ring
      _ = digits * 10 ^ scale.toNat * 10 ^ (-(scale - zeros)).toNat := by
          rw [exponents, pow_add]; ring

/-- The sign of what is read is the sign that was put in front. -/
theorem ofDecimal_sign {digits mantissa : Nat} {scale exponent : Int} (negative : Bool)
    (read : ofDecimal false digits scale = finite false mantissa exponent) :
    ofDecimal negative digits scale = finite negative mantissa exponent := by
  have signed : ∀ num den, nearest false num den = finite false mantissa exponent →
      nearest negative num den = finite negative mantissa exponent := by
    intro num den
    unfold nearest
    dsimp only
    split_ifs <;> simp
  unfold ofDecimal at read ⊢
  split_ifs at read ⊢ <;> exact signed _ _ read

end LocaleLint.Double
