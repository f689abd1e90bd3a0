import Mathlib
import LocaleLint.Json.Scanner
import LocaleLint.Proofs.Except
import LocaleLint.Proofs.Number.Decimal
import LocaleLint.Proofs.Number.Scaling

/-!
# Numbers in JSON texts

What is read as a number can be printed. Whole numbers are printed as they are, and read as they
have been printed. A double is printed with a decimal to which it is the nearest double; the reader
finds it again if the decimal is short, but it may come to a neighbour if it has to round more than
once.
-/

namespace LocaleLint.Json

open Text (IsDigits)

/-- The numbers that texts stand for: whole numbers of 64 bits, and finite doubles. -/
def Number.IsReadable : Number → Prop
  | .integer n => -2 ^ 63 ≤ n ∧ n < 2 ^ 64
  | .double x => x.IsNormal

/-- A text that does not go on with something that belongs to a number. -/
def EndsNumber (rest : Text) : Prop :=
  ∀ c, rest.head? = some c → isDigit c = false ∧ c ≠ '.' ∧ c ≠ 'e' ∧ c ≠ 'E'

/-! ## The parts of a numeral -/

/-- The digits in front of the point: a zero alone, or digits that start with another one. -/
def IsWhole (whole : Text) : Prop :=
  whole = ['0'] ∨ ∃ c rest, whole = c :: rest ∧ c ≠ '0' ∧ IsDigits whole

/-- The text of the point and the digits behind it. -/
def fractionText : Option Text → Text
  | none => []
  | some digits => '.' :: digits

def exponentText : Option (Bool × Text) → Text
  | none => []
  | some (negative, digits) => 'e' :: (if negative then '-' else '+') :: digits

/-- A numeral whose parts are as a text may hold them. -/
structure Numeral.IsWritten (numeral : Numeral) : Prop where
  whole : IsWhole numeral.whole
  fraction : ∀ digits, numeral.fraction = some digits → digits ≠ [] ∧ IsDigits digits
  exponent : ∀ negative digits, numeral.exponent = some (negative, digits) →
    digits ≠ [] ∧ IsDigits digits

theorem span_isDigit {digits rest : Text} (all : IsDigits digits)
    (stop : ∀ c, rest.head? = some c → isDigit c = false) :
    (digits ++ rest).span isDigit = (digits, rest) := by
  have passed : ∀ c ∈ digits, isDigit c = true := all
  rw [List.span_eq_takeWhile_dropWhile, List.takeWhile_append_of_pos passed,
    List.dropWhile_append_of_pos passed]
  cases rest with
  | nil => simp
  | cons c rest => simp [stop c rfl]

theorem readWhole_append {whole rest : Text} (shape : IsWhole whole)
    (stop : ∀ c, rest.head? = some c → isDigit c = false) :
    readWhole (whole ++ rest) = .ok (whole, rest) := by
  rcases shape with rfl | ⟨c, digits, rfl, nonzero, all⟩
  · cases rest with
    | nil => rfl
    | cons c rest => simp [readWhole, stop c rfl]
  · have first : isDigit c = true := all c (by simp)
    have spanned := span_isDigit all stop
    simp only [List.cons_append] at spanned ⊢
    unfold readWhole
    split
    · rename_i empty
      cases empty
    · rename_i zero
      exact absurd (List.cons.inj zero).1 nonzero
    · rename_i head tail _ split
      cases split
      rw [if_pos first, spanned]

theorem readDigits_append {digits rest : Text} (some : digits ≠ []) (all : IsDigits digits)
    (stop : ∀ c, rest.head? = .some c → isDigit c = false) :
    readDigits (digits ++ rest) = .ok (digits, rest) := by
  unfold readDigits
  rw [span_isDigit all stop]
  split
  · rename_i none
    exact absurd (Prod.mk.inj none).1 some
  · rename_i none
    exact absurd (Prod.mk.inj none).1 some
  · rename_i split
    cases split
    rfl

theorem readFraction_append {fraction : Option Text} {rest : Text}
    (shape : ∀ digits, fraction = some digits → digits ≠ [] ∧ IsDigits digits)
    (stop : ∀ c, rest.head? = some c → isDigit c = false ∧ c ≠ '.') :
    readFraction (fractionText fraction ++ rest) = .ok (fraction, rest) := by
  cases fraction with
  | none =>
    cases rest with
    | nil => rfl
    | cons c rest =>
      have noPoint := (stop c rfl).2
      simp [fractionText, readFraction, noPoint]
  | some digits =>
    obtain ⟨nonempty, all⟩ := shape digits rfl
    have read := readDigits_append nonempty all fun c first => (stop c first).1
    simp [fractionText, readFraction, read, bind, Except.bind, pure, Except.pure]

theorem readExponent_append {exponent : Option (Bool × Text)} {rest : Text}
    (shape : ∀ negative digits, exponent = some (negative, digits) → digits ≠ [] ∧ IsDigits digits)
    (stop : ∀ c, rest.head? = some c → isDigit c = false ∧ c ≠ 'e' ∧ c ≠ 'E') :
    readExponent (exponentText exponent ++ rest) = .ok (exponent, rest) := by
  match exponent with
  | none =>
    cases rest with
    | nil => rfl
    | cons c rest =>
      obtain ⟨_, small, capital⟩ := stop c rfl
      simp [exponentText, readExponent, small, capital]
  | some (negative, digits) =>
    obtain ⟨nonempty, all⟩ := shape negative digits rfl
    have read := readDigits_append nonempty all fun c first => (stop c first).1
    cases negative with
    | true =>
      simp [exponentText, readExponent, readSigned, read, bind, Except.bind, pure, Except.pure]
    | false =>
      simp [exponentText, readExponent, readSigned, read, bind, Except.bind, pure, Except.pure]

/-- The text of a numeral without its sign. -/
def Numeral.unsigned (numeral : Numeral) : Text :=
  numeral.whole ++ (fractionText numeral.fraction ++ exponentText numeral.exponent)

/-- A written numeral is read as its number, unless the number is too large. -/
theorem readUnsigned_append {numeral : Numeral} {rest : Text} (written : numeral.IsWritten)
    (ends : EndsNumber rest) : readUnsigned numeral.negative (numeral.unsigned ++ rest) =
      match numeral.stopLarge ((numeral.exponent.map (·.2)).getD [] ++ rest) rest with
      | some stop => stopBefore .numberTooLarge stop
      | none => .ok (numeral.toNumber, rest) := by
  have stopExponent : ∀ c, (exponentText numeral.exponent ++ rest).head? = some c →
      isDigit c = false ∧ c ≠ '.' := by
    intro c first
    match given : numeral.exponent with
    | none =>
      rw [given] at first
      exact ⟨(ends c first).1, (ends c first).2.1⟩
    | some (negative, digits) =>
      rw [given] at first
      cases Option.some.inj first
      exact ⟨rfl, by decide⟩
  have stopFraction : ∀ c, (fractionText numeral.fraction ++
      (exponentText numeral.exponent ++ rest)).head? = some c → isDigit c = false := by
    intro c first
    match given : numeral.fraction with
    | none =>
      rw [given] at first
      exact (stopExponent c first).1
    | some digits =>
      rw [given] at first
      cases Option.some.inj first
      rfl
  have whole := readWhole_append written.whole stopFraction
  have fraction := readFraction_append written.fraction stopExponent
  have exponent := readExponent_append written.exponent fun c first =>
    ⟨(ends c first).1, (ends c first).2.2⟩
  rw [Numeral.unsigned, List.append_assoc, List.append_assoc]
  obtain ⟨negative, digits, point, power⟩ := numeral
  cases stopped : Numeral.stopLarge ⟨negative, digits, point, power⟩
      ((power.map (·.2)).getD [] ++ rest) rest with
  | none =>
    simp only [readUnsigned, whole, fraction, exponent, stopped, bind, Except.bind, pure, Except.pure]
  | some stop =>
    simp only [readUnsigned, whole, fraction, exponent, stopped, bind, Except.bind]

/-! ## The numerals of printed numbers -/

theorem decimalValue_ofNat (n : Nat) : decimalValue (Text.ofNat n) = n := by
  simp [decimalValue, Text.readDigits_ofNat]

theorem isWhole_ofNat (n : Nat) : IsWhole (Text.ofNat n) := by
  by_cases zero : n = 0
  · left
    rw [zero]
    rfl
  · obtain ⟨c, rest, split, nonzero, _⟩ := Text.ofNat_head zero
    refine .inr ⟨c, rest, split, nonzero, Text.isDigits_ofNat n⟩

theorem decimalValue_lt {digits : Text} (all : IsDigits digits) :
    decimalValue digits < 10 ^ digits.length := by
  obtain ⟨n, bound, read⟩ := Text.readDigits_of_isDigits all
  simpa [decimalValue, read] using bound

/-- A short exponent is within the limit. -/
theorem excess?_ofNat {n : Nat} (small : n ≤ 400) : Numeral.excess? (Text.ofNat n) = none := by
  have short : (Text.ofNat n).length ≤ 3 := by
    by_cases zero : n = 0
    · rw [zero]; decide
    · have leading := Text.pow_length_ofNat_le zero
      by_contra long
      have larger : 10 ^ 3 ≤ 10 ^ ((Text.ofNat n).length - 1) :=
        Nat.pow_le_pow_right (by decide) (by omega)
      omega
  rw [Numeral.excess?, List.find?_eq_none]
  intro taken _
  have all : IsDigits ((Text.ofNat n).take taken) := fun c inside =>
    Text.isDigits_ofNat n c (List.mem_of_mem_take inside)
  have value := decimalValue_lt all
  have bound : 10 ^ ((Text.ofNat n).take taken).length ≤ 10 ^ 3 :=
    Nat.pow_le_pow_right (by decide) (by rw [List.length_take]; omega)
  have within : ¬ exponentLimit < decimalValue ((Text.ofNat n).take taken) := by
    unfold exponentLimit
    omega
  simpa using within

/-- A numeral that a reader takes for a number without stopping. -/
structure Numeral.Denotes (numeral : Numeral) (n : Number) : Prop where
  written : numeral.IsWritten
  value : numeral.toNumber = n
  finite : ∀ written rest, numeral.stopLarge written rest = none

def Numeral.text (numeral : Numeral) : Text :=
  Double.signText numeral.negative ++ numeral.unsigned

theorem Numeral.isInfinite_of_zero {numeral : Numeral} (zero : numeral.leading.1 = 0) :
    numeral.toNumber.isInfinite = false := by
  have double : numeral.toDouble = .finite numeral.negative 0 Double.minExponent := by
    rw [toDouble]
    dsimp only
    rw [zero]
    exact Double.scaleByTen_zero _ _
  unfold toNumber
  dsimp only
  rw [double]
  split_ifs <;> rfl

/-- A numeral is too large for its number, or for its exponent unless the digits are zeros. What is
written behind it does not matter. -/
theorem Numeral.stopLarge_eq_none_iff {numeral : Numeral} {written rest : Text} :
    numeral.stopLarge written rest = none ↔ numeral.toNumber.isInfinite = false ∧
      ∀ digits, numeral.exponent = some (false, digits) →
        excess? digits = none ∨ numeral.leading.1 = 0 := by
  unfold stopLarge
  split
  · next digits given =>
    cases beyond : excess? digits with
    | none => simp [given, beyond]
    | some n =>
      by_cases zero : numeral.leading.1 = 0
      · simp [zero, isInfinite_of_zero zero]
      · simp [given, beyond, zero]
  · next other =>
    have none : ∀ digits, numeral.exponent ≠ some (false, digits) := other
    simp [none]

theorem Numeral.Denotes.readUnsigned {numeral : Numeral} {n : Number} (denotes : numeral.Denotes n)
    {rest : Text} (ends : EndsNumber rest) :
    readUnsigned numeral.negative (numeral.unsigned ++ rest) = .ok (n, rest) := by
  rw [readUnsigned_append denotes.written ends, denotes.finite, denotes.value]

/-- A written numeral denotes what is read from it. -/
theorem Numeral.denotes_of_readUnsigned {numeral : Numeral} (written : numeral.IsWritten)
    {n : Number} {rest left : Text} (ends : EndsNumber rest)
    (read : readUnsigned numeral.negative (numeral.unsigned ++ rest) = .ok (n, left)) :
    numeral.Denotes n := by
  rw [readUnsigned_append written ends] at read
  split at read
  · cases read
  · next finite =>
    cases read
    exact ⟨written, rfl, fun _ _ => stopLarge_eq_none_iff.mpr (stopLarge_eq_none_iff.mp finite)⟩

theorem Numeral.IsWritten.unsigned_eq_cons {numeral : Numeral} (written : numeral.IsWritten) :
    ∃ c rest, numeral.unsigned = c :: rest ∧ isDigit c = true := by
  rw [Numeral.unsigned]
  rcases written.whole with zero | ⟨c, others, split, -, all⟩
  · exact ⟨'0', _, by rw [zero]; rfl, rfl⟩
  · exact ⟨c, _, by rw [split]; rfl, all c (by rw [split]; simp)⟩

theorem integer_numeral {n : Int} (readable : (Number.integer n).IsReadable) :
    Numeral.Denotes ⟨decide (n < 0), Text.ofNat n.natAbs, none, none⟩ (.integer n) := by
  obtain ⟨lower, upper⟩ := readable
  have significand : Numeral.significand ⟨decide (n < 0), Text.ofNat n.natAbs, none, none⟩ =
      n.natAbs := by
    simp [Numeral.significand, decimalValue_ofNat]
  have value : Numeral.toNumber ⟨decide (n < 0), Text.ofNat n.natAbs, none, none⟩ =
      .integer n := by
    simp only [Numeral.toNumber, significand, Option.isSome_none]
    by_cases negative : n < 0
    · have within : n.natAbs ≠ 0 ∧ n.natAbs ≤ 2 ^ 63 := by omega
      simp only [negative, decide_true, if_true, within, ne_eq, not_false_eq_true, and_self,
        Bool.false_eq_true, or_self, if_false]
      congr 1
      omega
    · have within : n.natAbs < 2 ^ 64 := by omega
      simp only [negative, decide_false, Bool.false_eq_true, or_self, if_false, within, if_true]
      congr 1
      omega
  exact ⟨⟨isWhole_ofNat _, nofun, nofun⟩, value, fun _ _ =>
    Numeral.stopLarge_eq_none_iff.mpr ⟨by rw [value]; rfl, fun _ given => by cases given⟩⟩

/-- The exponent that belongs to the digits without the point. -/
def Numeral.scale (numeral : Numeral) : Int :=
  numeral.writtenExponent - ((numeral.fraction.getD []).length : Int)

/-- A numeral with the digits of a decimal, perhaps with zeros behind them, and with a point or an
exponent. -/
structure Numeral.Writes (numeral : Numeral) (d : Decimal) : Prop where
  written : numeral.IsWritten
  marked : numeral.fraction.isSome ∨ numeral.exponent.isSome
  short : ∀ digits, numeral.exponent = some (false, digits) → excess? digits = none
  value : ∃ zeros, numeral.significand = d.digits * 10 ^ zeros ∧
    numeral.scale = d.exponent - (zeros : Nat) ∧ zeros ≤ d.exponent.toNat + 1

theorem significand_eq {numeral : Numeral} {digits : Text}
    (same : numeral.whole ++ numeral.fraction.getD [] = digits) :
    numeral.significand = decimalValue digits := by
  rw [Numeral.significand, same]

/-- The layout of a whole number: its digits, zeros, and a zero behind the point. -/
theorem whole_numeral (negative : Bool) {d : Decimal} {k : Nat} (exponent : d.exponent = k)
    (plain : d.digits = 0 → d.exponent = 0) :
    Numeral.Writes ⟨negative, Text.ofNat d.digits ++ List.replicate k '0', some ['0'], none⟩ d := by
  refine ⟨⟨?_, ?_, nofun⟩, .inl rfl, (fun _ given => by cases given), k + 1, ?_, ?_, by omega⟩
  · by_cases zero : d.digits = 0
    · have none : k = 0 := by
        have := plain zero
        omega
      left
      rw [zero, none]
      rfl
    · obtain ⟨c, rest, split, nonzero, _⟩ := Text.ofNat_head zero
      refine .inr ⟨c, rest ++ List.replicate k '0', by rw [split]; rfl, nonzero, ?_⟩
      exact (Text.isDigits_ofNat _).append (Text.isDigits_zeros k)
  · intro fraction given
    cases given
    exact ⟨by simp, Text.isDigits_zeros 1⟩
  · rw [@significand_eq ⟨negative, Text.ofNat d.digits ++ List.replicate k '0', some ['0'], none⟩ _
      (show _ = Text.ofNat d.digits ++ List.replicate (k + 1) '0' by
        rw [List.replicate_succ', ← List.append_assoc]; rfl)]
    simp [decimalValue, Text.readDigits_append, Text.readDigits_ofNat, Text.readDigits_zeros]
  · simp [Numeral.scale, Numeral.writtenExponent, exponent]

/-- The layout of a fraction: the digits with zeros in front of them, and a point between. -/
theorem fraction_numeral (negative : Bool) {d : Decimal} {k : Nat} {padded : Text}
    (exponent : d.exponent = -(k + 1 : Nat))
    (shape : padded = List.replicate (k + 2 - (Text.ofNat d.digits).length) '0' ++
      Text.ofNat d.digits) :
    Numeral.Writes ⟨negative, padded.take (padded.length - (k + 1)),
      some (padded.drop (padded.length - (k + 1))), none⟩ d := by
  have digits : IsDigits padded := by
    rw [shape]
    exact (Text.isDigits_zeros _).append (Text.isDigits_ofNat _)
  have length : padded.length = max (Text.ofNat d.digits).length (k + 2) := by
    rw [shape, List.length_append, List.length_replicate]
    omega
  refine ⟨⟨?_, ?_, nofun⟩, .inl rfl, (fun _ given => by cases given), 0, ?_, ?_, by omega⟩
  · by_cases few : (Text.ofNat d.digits).length ≤ k + 1
    · left
      have one : padded.length - (k + 1) = 1 := by omega
      obtain ⟨zeros, count⟩ : ∃ zeros, k + 2 - (Text.ofNat d.digits).length = zeros + 1 :=
        ⟨k + 1 - (Text.ofNat d.digits).length, by omega⟩
      rw [one, shape, count, List.replicate_succ]
      rfl
    · right
      have unpadded : padded = Text.ofNat d.digits := by
        rw [shape, show k + 2 - (Text.ofNat d.digits).length = 0 by omega]
        rfl
      have nonzero : d.digits ≠ 0 := by
        intro zero
        rw [zero] at few
        exact few (by simp [Text.ofNat, Text.digitsRev])
      obtain ⟨c, rest, split, notZero, _⟩ := Text.ofNat_head nonzero
      obtain ⟨m, count⟩ : ∃ m, padded.length - (k + 1) = m + 1 :=
        ⟨padded.length - (k + 2), by omega⟩
      have first : padded.take (m + 1) = c :: rest.take m := by rw [unpadded, split]; rfl
      rw [count]
      exact ⟨c, rest.take m, first, notZero, fun x inside => digits x (List.mem_of_mem_take inside)⟩
  · intro fraction given
    cases given
    refine ⟨?_, fun x inside => digits x (List.mem_of_mem_drop inside)⟩
    apply List.ne_nil_of_length_pos
    rw [List.length_drop]
    omega
  · rw [@significand_eq ⟨negative, padded.take (padded.length - (k + 1)),
      some (padded.drop (padded.length - (k + 1))), none⟩ padded (List.take_append_drop _ _), shape]
    simp [decimalValue, Text.readDigits_append, Text.readDigits_ofNat, Text.readDigits_zeros]
  · simp only [Numeral.scale, Numeral.writtenExponent, Option.getD_some, List.length_drop, exponent]
    omega

/-- The layout with an exponent: a point behind the first digit, if there are others. -/
theorem exponent_numeral (negative : Bool) {d : Decimal} (order : d.order ≤ 400) :
    Numeral.Writes ⟨negative, (Text.ofNat d.digits).take 1,
      if (Text.ofNat d.digits).length = 1 then none else some (Text.ofNat d.digits).tail,
      some (decide (d.order < 0), Text.ofNat d.order.natAbs)⟩ d := by
  have digits := Text.isDigits_ofNat d.digits
  obtain ⟨c, rest, split⟩ := List.exists_cons_of_ne_nil (Text.ofNat_ne_nil d.digits)
  have tail : (if (Text.ofNat d.digits).length = 1 then none
      else some (Text.ofNat d.digits).tail).getD [] = rest := by
    rw [split]
    cases rest <;> simp
  refine ⟨⟨?_, ?_, ?_⟩, .inr rfl, ?_, 0, ?_, ?_, by omega⟩
  · by_cases zero : d.digits = 0
    · left
      rw [zero]
      rfl
    · obtain ⟨first, others, numeral, notZero, digit⟩ := Text.ofNat_head zero
      right
      rw [numeral]
      refine ⟨first, [], rfl, notZero, fun x inside => ?_⟩
      rw [List.mem_singleton.mp inside]
      exact digit
  · intro fraction given
    rw [split] at given
    cases rest with
    | nil => simp at given
    | cons second others =>
      simp only [List.length_cons, List.tail_cons] at given
      rw [if_neg (by omega)] at given
      cases given
      exact ⟨by simp, fun x inside => digits x (by rw [split]; exact List.mem_cons_of_mem c inside)⟩
  · intro sign order given
    cases given
    exact ⟨Text.ofNat_ne_nil _, Text.isDigits_ofNat _⟩
  · intro order given
    simp only [Option.some.injEq, Prod.mk.injEq, decide_eq_false_iff_not] at given
    rw [← given.2]
    exact excess?_ofNat (by omega)
  · rw [@significand_eq ⟨negative, (Text.ofNat d.digits).take 1,
      if (Text.ofNat d.digits).length = 1 then none else some (Text.ofNat d.digits).tail,
      some (decide (d.order < 0), Text.ofNat d.order.natAbs)⟩ (Text.ofNat d.digits)
      (by rw [tail, split]; rfl), decimalValue_ofNat, pow_zero, mul_one]
  · have order : d.order = rest.length + d.exponent := by
      simp [Decimal.order, Decimal.digitCount, split]
    rw [Numeral.scale, tail, Numeral.writtenExponent]
    by_cases below : d.order < 0
    · simp only [below, decide_true, decimalValue_ofNat]
      omega
    · simp only [below, decide_false, decimalValue_ofNat]
      omega

/-- The text of a double is the text of a numeral that is written for its decimal. -/
theorem exists_numeral_of_isNormal {negative : Bool} {mantissa : Nat} {exponent : Int}
    (normal : (Double.finite negative mantissa exponent).IsNormal) : ∃ numeral : Numeral,
      (Number.double (.finite negative mantissa exponent)).text = numeral.text ∧
        numeral.negative = negative ∧ numeral.Writes (.ofDouble mantissa exponent) := by
  have read := Decimal.ofDouble_toDouble normal
  have plain : (Decimal.ofDouble mantissa exponent).digits = 0 →
      (Decimal.ofDouble mantissa exponent).exponent = 0 := by
    obtain ⟨short, least, greatest, full⟩ := normal
    exact Decimal.ofDouble_digits_eq_zero (.intro short least greatest full)
  simp only [Number.text, Double.scientificText?, Option.getD_some]
  generalize Decimal.ofDouble mantissa exponent = d at read plain
  by_cases positional : Double.isPositionalOrder d.order
  · simp only [positional, if_true]
    by_cases nonneg : 0 ≤ d.exponent
    · obtain ⟨k, exact⟩ := Int.eq_ofNat_of_zero_le nonneg
      refine ⟨_, ?_, rfl, whole_numeral negative exact plain⟩
      simp [Decimal.positional, exact, Numeral.text, Numeral.unsigned, fractionText, exponentText]
    · obtain ⟨k, exact⟩ : ∃ k : Nat, d.exponent = -(k + 1 : Nat) :=
        ⟨(-d.exponent).toNat - 1, by omega⟩
      have places : (-d.exponent).toNat = k + 1 := by omega
      refine ⟨_, ?_, rfl, fraction_numeral negative exact rfl⟩
      simp only [Decimal.positional, nonneg, if_false, places, Numeral.text, Numeral.unsigned,
        fractionText, exponentText, List.append_nil]
      rw [if_neg]
      rw [List.isEmpty_iff]
      apply List.ne_nil_of_length_pos
      rw [List.length_drop, List.length_append, List.length_replicate]
      omega
  · have order : d.order ≤ 400 := by
      refine Decimal.order_le (fun zero => positional ?_) read
      rw [Decimal.order, Decimal.digitCount, zero, plain zero]
      rfl
    refine ⟨_, ?_, rfl, exponent_numeral negative order⟩
    simp only [positional, Bool.false_eq_true, if_false, Numeral.text, Numeral.unsigned,
      exponentText, List.append_assoc]
    by_cases single : (Text.ofNat d.digits).length = 1
    · simp [single, fractionText]
    · simp [single, fractionText]

/-- The text of a number is the text of a numeral. -/
theorem Number.exists_numeral {n : Number} (readable : n.IsReadable) :
    ∃ numeral : Numeral, n.text = numeral.text ∧ numeral.IsWritten := by
  match n, readable with
  | .integer n, readable =>
    exact ⟨⟨decide (n < 0), Text.ofNat n.natAbs, none, none⟩,
      by simp [text, Numeral.text, Numeral.unsigned, fractionText, exponentText],
      (integer_numeral readable).written⟩
  | .double (.finite negative mantissa exponent), normal =>
    obtain ⟨numeral, text, -, writes⟩ := exists_numeral_of_isNormal normal
    exact ⟨numeral, text, writes.written⟩

/-! ## Short numerals -/

theorem le_of_readDigits {n value : Nat} {digits : Text}
    (read : Text.readDigits n digits = some value) : n ≤ value := by
  induction digits generalizing n with
  | nil => exact (Option.some.inj read).le
  | cons c rest ih =>
    obtain ⟨d, -, later⟩ := Option.bind_eq_some_iff.mp read
    have := ih later
    omega

/-- All digits are taken if 64 bits hold the number that they make. -/
theorem pushDigits_of_readDigits {n value : Nat} {digits : Text}
    (read : Text.readDigits n digits = some value) (fits : value < 2 ^ 64) :
    pushDigits n digits = (value, []) := by
  induction digits generalizing n with
  | nil => exact congrArg (·, []) (Option.some.inj read)
  | cons c rest ih =>
    obtain ⟨d, digit, later⟩ := Option.bind_eq_some_iff.mp read
    have next : 10 * n + d < 2 ^ 64 := (le_of_readDigits later).trans_lt fits
    rw [pushDigits, digit]
    exact (if_pos next).trans (ih later)

/-- A numeral that 64 bits hold is taken as a whole. -/
theorem Numeral.leading_eq {numeral : Numeral} (written : numeral.IsWritten)
    (fits : numeral.significand < 2 ^ 64) :
    numeral.leading = (numeral.significand, numeral.scale) := by
  have whole : IsDigits numeral.whole := by
    rcases written.whole with zero | ⟨_, _, _, _, all⟩
    · rw [zero]
      exact Text.isDigits_zeros 1
    · exact all
  have fraction : IsDigits (numeral.fraction.getD []) := by
    cases given : numeral.fraction with
    | none => exact nofun
    | some digits => exact (written.fraction digits given).2
  obtain ⟨_, -, read⟩ := Text.readDigits_of_isDigits (whole.append fraction)
  have value : Text.readDigits 0 (numeral.whole ++ numeral.fraction.getD []) =
      some numeral.significand := by
    rw [significand, decimalValue, read 0, Option.getD_some]
  rw [Text.readDigits_append] at value
  obtain ⟨front, first, later⟩ := Option.bind_eq_some_iff.mp value
  have pushed := pushDigits_of_readDigits first ((le_of_readDigits later).trans_lt fits)
  rw [leading, pushed]
  dsimp only
  rw [pushDigits_of_readDigits later fits]
  simp [scale]

/-- Up to about fifteen digits and a small exponent a numeral is read as the nearest double. -/
theorem Numeral.toDouble_eq_ofDecimal {numeral : Numeral} (written : numeral.IsWritten)
    (short : numeral.significand ≤ 2 ^ 53) (small : numeral.scale.natAbs ≤ 22) :
    numeral.toDouble = .ofDecimal numeral.negative numeral.significand numeral.scale := by
  rw [toDouble, leading_eq written (short.trans_lt (by norm_num))]
  exact Double.scaleByTen_eq_ofDecimal numeral.negative short small

/-- A decimal with so few digits that a reader rounds it but once. -/
structure Decimal.IsShort (d : Decimal) : Prop where
  digits : d.digits * 10 ^ (d.exponent.toNat + 1) ≤ 2 ^ 53
  exponent : d.exponent.natAbs ≤ 21

/-- The numeral of a short decimal denotes the double that is written with the decimal. -/
theorem Numeral.Writes.denotes {numeral : Numeral} {mantissa : Nat} {exponent : Int}
    (writes : numeral.Writes (.ofDouble mantissa exponent))
    (normal : (Double.finite numeral.negative mantissa exponent).IsNormal)
    (short : Decimal.IsShort (.ofDouble mantissa exponent)) :
    numeral.Denotes (.double (.finite numeral.negative mantissa exponent)) := by
  obtain ⟨zeros, digits, places, few⟩ := writes.value
  have double : numeral.toDouble = .finite numeral.negative mantissa exponent := by
    have fits : numeral.significand ≤ 2 ^ 53 := by
      rw [digits]
      exact (Nat.mul_le_mul_left _ (Nat.pow_le_pow_right (by norm_num) few)).trans short.digits
    have small : numeral.scale.natAbs ≤ 22 := by
      have := short.exponent
      omega
    rw [toDouble_eq_ofDecimal writes.written fits small, digits, places, Double.ofDecimal_mul_pow]
    exact Decimal.ofDouble_toDouble normal
  have value : numeral.toNumber = .double (.finite numeral.negative mantissa exponent) := by
    rw [toNumber, if_pos writes.marked, double]
  exact ⟨writes.written, value, fun _ _ => stopLarge_eq_none_iff.mpr
    ⟨by rw [value]; rfl, fun digits given => .inl (writes.short digits given)⟩⟩

/-! ## What is read -/

theorem Numeral.toDouble_isRounded (numeral : Numeral) : numeral.toDouble.IsRounded :=
  (Double.isRounded_nearest _ _ one_pos).scaleByTen _

theorem Numeral.toDouble_isNormal {numeral : Numeral}
    (finite : (Number.double numeral.toDouble).isInfinite = false) : numeral.toDouble.IsNormal := by
  refine numeral.toDouble_isRounded.resolve_right ?_
  rintro ⟨negative, large⟩
  rw [large] at finite
  cases finite

/-- A number that is not too large can be printed. -/
theorem Numeral.toNumber_isReadable {numeral : Numeral}
    (finite : numeral.toNumber.isInfinite = false) : numeral.toNumber.IsReadable := by
  unfold toNumber at finite ⊢
  dsimp only at finite ⊢
  split_ifs at finite ⊢
  · exact toDouble_isNormal finite
  · exact ⟨by omega, by omega⟩
  · exact toDouble_isNormal finite
  · exact ⟨by omega, by omega⟩
  · exact toDouble_isNormal finite

/-- What is read as a number can be printed. -/
theorem isReadable_of_readUnsigned {negative : Bool} {text rest : Text} {n : Number}
    (read : readUnsigned negative text = .ok (n, rest)) : n.IsReadable := by
  obtain ⟨⟨whole, _⟩, _, read⟩ := bind_eq_ok.mp read
  obtain ⟨⟨fraction, _⟩, _, read⟩ := bind_eq_ok.mp read
  obtain ⟨⟨exponent, _⟩, _, read⟩ := bind_eq_ok.mp read
  dsimp only at read
  split at read
  · cases read
  · next finite =>
    cases read
    exact Numeral.toNumber_isReadable (Numeral.stopLarge_eq_none_iff.mp finite).1

end LocaleLint.Json
