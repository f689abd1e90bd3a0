import Mathlib
import LocaleLint.Text.Basic

/-!
# Decimal numerals

The numeral of a number is read as that number. It consists of digits, starts with a zero only if
the number is zero, and is as long as the number is large.
-/

namespace LocaleLint.Text

def IsDigits (s : Text) : Prop := ∀ c ∈ s, (digitValue? c).isSome

theorem digitValue?_digit (n : Nat) : digitValue? (digit n) = some (n % 10) := by
  have small : n % 10 < 10 := Nat.mod_lt n (by decide)
  have all : ∀ d < 10, digitValue? (Char.ofNat (48 + d)) = some d := by decide
  exact all (n % 10) small

theorem toNat_of_digit {c : Char} (digit : (digitValue? c).isSome) :
    48 ≤ c.toNat ∧ c.toNat ≤ 57 := by
  unfold digitValue? at digit
  split at digit
  · next between => exact between
  · cases digit

theorem digit_ne_zero {n : Nat} (positive : n % 10 ≠ 0) : digit n ≠ '0' := by
  intro equal
  have value := digitValue?_digit n
  rw [equal] at value
  exact positive (Option.some.inj value).symm

theorem readDigits_append (value : Nat) (s t : Text) :
    readDigits value (s ++ t) = (readDigits value s).bind fun v => readDigits v t := by
  induction s generalizing value with
  | nil => rfl
  | cons c rest ih =>
    cases digit : digitValue? c with
    | none => simp [readDigits, digit]
    | some d => simp [readDigits, digit, ih]

theorem digitValue?_lt {c : Char} {d : Nat} (digit : digitValue? c = some d) : d < 10 := by
  unfold digitValue? at digit
  split at digit
  case isTrue between =>
    have upper : c.toNat ≤ 57 := between.2
    have value := Option.some.inj digit
    omega
  case isFalse => cases digit

/-- Digits are read as a number of their own behind what has been read before. -/
theorem readDigits_of_isDigits {s : Text} (digits : IsDigits s) :
    ∃ n < 10 ^ s.length, ∀ value, readDigits value s = some (value * 10 ^ s.length + n) := by
  induction s with
  | nil => exact ⟨0, by simp, fun value => by simp [readDigits]⟩
  | cons c rest ih =>
    have first : (digitValue? c).isSome := digits c (by simp)
    obtain ⟨d, digit⟩ := Option.isSome_iff_exists.mp first
    obtain ⟨n, bound, read⟩ := ih fun x inside => digits x (by simp [inside])
    refine ⟨d * 10 ^ rest.length + n, ?_, fun value => ?_⟩
    · have small := Nat.mul_le_mul_right (10 ^ rest.length) (digitValue?_lt digit)
      rw [List.length_cons, pow_succ]
      linarith
    · rw [readDigits, digit, Option.bind_some, read, List.length_cons, pow_succ]
      congr 1
      ring

theorem IsDigits.append {s t : Text} (left : IsDigits s) (right : IsDigits t) :
    IsDigits (s ++ t) := by
  intro c inside
  rcases List.mem_append.mp inside with before | behind
  · exact left c before
  · exact right c behind

theorem isDigits_zeros (count : Nat) : IsDigits (List.replicate count '0') := by
  intro c inside
  rw [List.eq_of_mem_replicate inside]
  decide

theorem readDigits_zeros (value count : Nat) :
    readDigits value (List.replicate count '0') = some (value * 10 ^ count) := by
  induction count generalizing value with
  | zero => simp [readDigits]
  | succ count ih =>
    have zero : digitValue? '0' = some 0 := by decide
    rw [List.replicate_succ, readDigits, zero, Option.bind_some, ih]
    congr 1
    ring

private theorem digitsRev_step (fuel n : Nat) :
    digitsRev (fuel + 1) n = digit n :: if n < 10 then [] else digitsRev fuel (n / 10) := rfl

private theorem readDigits_digitsRev {fuel n : Nat} (enough : n < fuel) (value : Nat) :
    readDigits value (digitsRev fuel n).reverse =
      some (value * 10 ^ (digitsRev fuel n).length + n) := by
  induction fuel generalizing n with
  | zero => omega
  | succ fuel ih =>
    rw [digitsRev_step]
    by_cases single : n < 10
    · have digit := digitValue?_digit n
      rw [Nat.mod_eq_of_lt single] at digit
      simp only [single, ↓reduceIte, List.reverse_singleton, List.length_singleton, readDigits,
        digit, Option.bind_some]
      congr 1
      omega
    · rw [if_neg single, List.reverse_cons, readDigits_append, ih (by omega)]
      simp only [Option.bind_some, readDigits, digitValue?_digit, List.length_cons, pow_succ]
      congr 1
      have split := Nat.div_add_mod n 10
      linarith

private theorem isDigits_digitsRev (fuel n : Nat) : IsDigits (digitsRev fuel n) := by
  induction fuel generalizing n with
  | zero => intro c inside; cases inside
  | succ fuel ih =>
    intro c inside
    rw [digitsRev_step] at inside
    rcases List.mem_cons.mp inside with rfl | behind
    · rw [digitValue?_digit]; rfl
    · split at behind
      · cases behind
      · exact ih (n / 10) c behind

theorem isDigits_ofNat (n : Nat) : IsDigits (ofNat n) := by
  intro c inside
  exact isDigits_digitsRev (n + 1) n c (List.mem_reverse.mp inside)

theorem readDigits_ofNat (value n : Nat) :
    readDigits value (ofNat n) = some (value * 10 ^ (ofNat n).length + n) := by
  have read := readDigits_digitsRev (Nat.lt_succ_self n) value
  rwa [← List.length_reverse] at read

theorem ofNat_ne_nil (n : Nat) : ofNat n ≠ [] := by
  simp [ofNat, digitsRev_step]

theorem ofNat_injective {m n : Nat} (same : ofNat m = ofNat n) : m = n := by
  have left := readDigits_ofNat 0 m
  rw [same, readDigits_ofNat 0 n] at left
  simpa using left.symm

private theorem digitsRev_getLast {fuel n : Nat} (enough : n < fuel) (positive : n ≠ 0) :
    ∃ c, (digitsRev fuel n).getLast? = some c ∧ c ≠ '0' := by
  induction fuel generalizing n with
  | zero => omega
  | succ fuel ih =>
    rw [digitsRev_step]
    by_cases single : n < 10
    · rw [if_pos single]
      exact ⟨digit n, rfl, digit_ne_zero (by omega)⟩
    · rw [if_neg single]
      obtain ⟨c, last, nonzero⟩ := ih (n := n / 10) (by omega) (by omega)
      refine ⟨c, ?_, nonzero⟩
      rw [List.getLast?_cons, last]
      rfl

/-- Only the numeral of zero starts with a zero. -/
theorem ofNat_head {n : Nat} (positive : n ≠ 0) :
    ∃ c rest, ofNat n = c :: rest ∧ c ≠ '0' ∧ (digitValue? c).isSome := by
  obtain ⟨c, last, nonzero⟩ := digitsRev_getLast (Nat.lt_succ_self n) positive
  have first : (ofNat n).head? = some c := by rw [ofNat, List.head?_reverse, last]
  obtain ⟨rest, split⟩ := List.head?_eq_some_iff.mp first
  exact ⟨c, rest, split, nonzero, isDigits_ofNat n c (by simp [split])⟩

private theorem pow_length_digitsRev_le {fuel n : Nat} (positive : n ≠ 0) :
    10 ^ ((digitsRev fuel n).length - 1) ≤ n := by
  induction fuel generalizing n with
  | zero => simp [digitsRev]; omega
  | succ fuel ih =>
    rw [digitsRev_step]
    by_cases single : n < 10
    · simp [single]; omega
    · rw [if_neg single, List.length_cons, Nat.add_sub_cancel]
      have shorter := ih (n := n / 10) (by omega)
      cases length : (digitsRev fuel (n / 10)).length with
      | zero => simp; omega
      | succ k =>
        rw [length, Nat.add_sub_cancel] at shorter
        rw [pow_succ]
        have := Nat.div_mul_le_self n 10
        calc 10 ^ k * 10 ≤ n / 10 * 10 := Nat.mul_le_mul_right 10 shorter
          _ ≤ n := this

theorem pow_length_ofNat_le {n : Nat} (positive : n ≠ 0) : 10 ^ ((ofNat n).length - 1) ≤ n := by
  rw [ofNat, List.length_reverse]
  exact pow_length_digitsRev_le positive

/-- A greater number has no shorter numeral. -/
theorem length_ofNat_le {m n : Nat} (below : m ≤ n) : (ofNat m).length ≤ (ofNat n).length := by
  obtain ⟨value, bound, read⟩ := readDigits_of_isDigits (isDigits_ofNat n)
  have same := (read 0).symm.trans (readDigits_ofNat 0 n)
  simp only [Nat.zero_mul, Nat.zero_add, Option.some.injEq] at same
  by_cases zero : m = 0
  · rw [zero]
    exact List.length_pos_iff.mpr (ofNat_ne_nil n)
  · by_contra longer
    -- a longer numeral would stand for at least ten to the power of the digits of the greater number
    have shorter : (ofNat n).length ≤ (ofNat m).length - 1 := by omega
    have := Nat.pow_le_pow_right (n := 10) (by decide) shorter
    have := pow_length_ofNat_le zero
    omega

/-- The numeral of an index of 64 bits is read as that index. -/
theorem toIndex?_ofNat {n : Nat} (fits : n < 2 ^ 64) : toIndex? (ofNat n) = some n := by
  have digits := isDigits_ofNat n
  have read := readDigits_ofNat 0 n
  cases numeral : ofNat n with
  | nil => exact absurd numeral (ofNat_ne_nil n)
  | cons c rest =>
    rw [numeral] at digits read
    have noSign : c ≠ '+' := by
      rintro rfl
      have := digits '+' (by simp)
      revert this
      decide
    have value : readDigits 0 (c :: rest) = some n := by simpa using read
    unfold toIndex?
    split
    · rename_i tail split
      exact absurd (List.cons.inj split).1 noSign
    · simp only [value, Option.filter_some, decide_eq_true fits]
      rfl

end LocaleLint.Text
