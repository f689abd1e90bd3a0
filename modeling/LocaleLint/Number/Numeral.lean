import LocaleLint.Number.Double
import LocaleLint.Text.Basic

/-!
# Numerals of doubles

The doubles that texts stand for, rounded to the nearest one. There may be a sign, a point and an
exponent, and there are words for what is not finite. Main function: `Double.ofNumeral?`.
-/

namespace LocaleLint.Double

/-- The number of one digit or more. -/
def digitsValue? (digits : Text) : Option Nat :=
  if digits.isEmpty then none else Text.readDigits 0 digits

/-- The decimal digits at the start of a text, and the rest. -/
def spanDigits (s : Text) : Text × Text := s.span fun c => (Text.digitValue? c).isSome

/-- The exponent at the end of a numeral. -/
def exponentOf? : Text → Option Int
  | [] => some 0
  | c :: rest =>
    if c = 'e' ∨ c = 'E' then
      match rest with
      | '-' :: digits => (digitsValue? digits).map fun n => -(n : Int)
      | '+' :: digits => (digitsValue? digits).map fun n => (n : Int)
      | digits => (digitsValue? digits).map fun n => (n : Int)
    else none

/-- The digits behind a point, if the text starts with one, and the rest. -/
def spanFraction : Text → Text × Text
  | '.' :: rest => spanDigits rest
  | rest => ([], rest)

/-- The double of a numeral without sign: a word, or digits with a point and an exponent; there has
to be a digit in front of the point or behind it. -/
def ofUnsigned? (negative : Bool) (numeral : Text) : Option Double :=
  let word := numeral.map Char.toLower
  if word = "inf".toList ∨ word = "infinity".toList then some (.infinite negative)
  else if word = "nan".toList then some .nan
  else
    let (whole, rest) := spanDigits numeral
    let (fraction, rest) := spanFraction rest
    if (whole ++ fraction).isEmpty then none
    else (exponentOf? rest).map fun exponent =>
      .ofDecimal negative ((Text.readDigits 0 (whole ++ fraction)).getD 0)
        (exponent - fraction.length)

def ofNumeral? : Text → Option Double
  | '-' :: numeral => ofUnsigned? true numeral
  | '+' :: numeral => ofUnsigned? false numeral
  | numeral => ofUnsigned? false numeral

end LocaleLint.Double
