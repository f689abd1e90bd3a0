import LocaleLint.Number.Double
import LocaleLint.Text.Basic

/-!
# Decimals

A double is written with the fewest decimal digits that are read back as the same double; of those
the nearest to the double are taken, and the even ones in a tie. Two layouts give the digits a
text. Main functions: `Decimal.ofDouble`, `Double.plainText` and `Double.scientificText`.
-/

namespace LocaleLint

-- Powers are those of the core library, whatever else is imported.
attribute [local instance (high)] instPowNat

/-- The number `digits * 10 ^ exponent`. -/
structure Decimal where
  digits : Nat
  exponent : Int
deriving Repr, DecidableEq

namespace Decimal

/-- The number of digits of the numeral of a number. -/
def digitCount (n : Nat) : Nat := (Text.ofNat n).length

/-- A quotient divided by a power of ten, as a quotient. -/
def shift (num den : Nat) (exponent : Int) : Nat × Nat :=
  if 0 ≤ exponent then (num, den * 10 ^ exponent.toNat) else (num * 10 ^ (-exponent).toNat, den)

/-- The exponent of the first digit of a quotient that is not zero. -/
def leadingExponent (num den : Nat) : Int :=
  let guess : Int := (digitCount num : Int) - digitCount den
  let (n, d) := shift num den guess
  if d ≤ n then guess else guess - 1

/-- The magnitude of a finite double as a quotient. -/
def quotient (mantissa : Nat) (exponent : Int) : Nat × Nat :=
  if 0 ≤ exponent then (mantissa * 2 ^ exponent.toNat, 1) else (mantissa, 2 ^ (-exponent).toNat)

/-- The neighbours of a quotient among the multiples of a power of ten, the nearer one first; in a
tie the even one is first. -/
def neighbours (num den : Nat) (exponent : Int) : List Decimal :=
  let (n, d) := shift num den exponent
  let below := n / d
  let nearer := Double.roundQuotient n d
  let other := if nearer = below then below + 1 else below
  [⟨nearer, exponent⟩, ⟨other, exponent⟩]

/-- Whether a decimal is read as the double with a magnitude. -/
def isReadAs (mantissa : Nat) (exponent : Int) (d : Decimal) : Bool :=
  Double.ofDecimal false d.digits d.exponent = .finite false mantissa exponent

/-- The decimals to try for a double when `tried` digits are too few. -/
def candidates (mantissa : Nat) (exponent : Int) (tried : Nat) : List Decimal :=
  let (num, den) := quotient mantissa exponent
  neighbours num den (leadingExponent num den - tried)

/-- The decimal with the fewest digits that is read as a double, when `tried` digits are too few
and at most `fuel` more are tried. -/
def shortestFrom (mantissa : Nat) (exponent : Int) : (fuel tried : Nat) → Option Decimal
  | 0, _ => none
  | fuel + 1, tried =>
    ((candidates mantissa exponent tried).find? (isReadAs mantissa exponent)).or
      (shortestFrom mantissa exponent fuel (tried + 1))

/-- A decimal without the zeros at the end of its digits, `fuel` of them at most. -/
def dropZeros : (fuel : Nat) → Decimal → Decimal
  | 0, d => d
  | fuel + 1, d =>
    if d.digits ≠ 0 ∧ d.digits % 10 = 0 then dropZeros fuel ⟨d.digits / 10, d.exponent + 1⟩ else d

/-- The decimal that is equal to the magnitude of a double. -/
def exact (mantissa : Nat) (exponent : Int) : Decimal :=
  if 0 ≤ exponent then ⟨mantissa * 2 ^ exponent.toNat, 0⟩
  else ⟨mantissa * 5 ^ (-exponent).toNat, exponent⟩

/-- The decimal that a double is written with. Seventeen digits always suffice. -/
def ofDouble (mantissa : Nat) (exponent : Int) : Decimal :=
  if mantissa = 0 then ⟨0, 0⟩
  else
    let d := (shortestFrom mantissa exponent 17 0).getD (exact mantissa exponent)
    dropZeros d.digits d

/-- The exponent of the first digit. -/
def order (d : Decimal) : Int := digitCount d.digits - 1 + d.exponent

/-- The digits with a point at their place and as many zeros as that takes. -/
def positional (d : Decimal) : Text × Text :=
  let digits := Text.ofNat d.digits
  if 0 ≤ d.exponent then (digits ++ List.replicate d.exponent.toNat '0', [])
  else
    let places := (-d.exponent).toNat
    let padded := List.replicate (places + 1 - digits.length) '0' ++ digits
    (padded.take (padded.length - places), padded.drop (padded.length - places))

end Decimal

namespace Double

/-- The sign in front of a numeral. -/
def signText (negative : Bool) : Text := if negative then ['-'] else []

/-- The layout without exponents: all places, and a point only in front of a fraction. -/
def plainText : Double → Text
  | nan => "NaN".toList
  | infinite negative => signText negative ++ "inf".toList
  | finite negative mantissa exponent =>
    let (whole, fraction) := (Decimal.ofDouble mantissa exponent).positional
    signText negative ++ whole ++ if fraction.isEmpty then [] else '.' :: fraction

/-- The exponents of a first digit for which no exponent is written. -/
def isPositionalOrder (order : Int) : Bool := -5 ≤ order && order ≤ 15

/-- The layout with exponents: for numbers near one all places with a fraction, otherwise one digit
in front of the point and a signed exponent. There is none for what is not finite. -/
def scientificText? : Double → Option Text
  | nan => none
  | infinite _ => none
  | finite negative mantissa exponent =>
    let d := Decimal.ofDouble mantissa exponent
    signText negative ++
      if isPositionalOrder d.order then
        let (whole, fraction) := d.positional
        whole ++ '.' :: if fraction.isEmpty then ['0'] else fraction
      else
        let digits := Text.ofNat d.digits
        let fraction := if digits.length = 1 then [] else '.' :: digits.tail
        digits.take 1 ++ fraction ++ ['e', if d.order < 0 then '-' else '+'] ++
          Text.ofNat d.order.natAbs

end Double

end LocaleLint
