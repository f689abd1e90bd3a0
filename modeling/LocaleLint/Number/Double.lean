/-!
# Doubles

The IEEE 754 binary64 numbers, kept as exact integers so that order and rounding are those of the
rational numbers they stand for. `Double.nearest` rounds a quotient of naturals; all else goes
through it, products and quotients of doubles as well.
-/

namespace LocaleLint

-- Powers are those of the core library, whatever else is imported.
attribute [local instance (high)] instPowNat

/-- A double: a sign, and a magnitude `mantissa * 2 ^ exponent`, or one of the values that are not
finite. A magnitude is written with a mantissa below `2 ^ 53` that is at least `2 ^ 52` unless the
exponent is the least one. -/
inductive Double where
  | finite (negative : Bool) (mantissa : Nat) (exponent : Int)
  | infinite (negative : Bool)
  | nan
deriving Repr, DecidableEq

namespace Double

/-- The least exponent of a double. -/
def minExponent : Int := -1074

/-- The greatest exponent of a double. -/
def maxExponent : Int := 971

/-- The natural number nearest to a quotient; a tie goes to the even one. -/
def roundQuotient (num den : Nat) : Nat :=
  let floor := num / den
  let twice := 2 * (num % den)
  if twice < den then floor
  else if den < twice then floor + 1
  else floor + floor % 2

/-- A quotient divided by a power of two, as a quotient. -/
def scaleDown (num den : Nat) (exponent : Int) : Nat × Nat :=
  if 0 ≤ exponent then (num, den * 2 ^ exponent.toNat) else (num * 2 ^ (-exponent).toNat, den)

/-- The exponent that gives a quotient a mantissa of 53 bits, or the least exponent if the quotient
is too small for that. -/
def exponentFor (num den : Nat) : Int :=
  let guess := max minExponent ((num.log2 : Int) - (den.log2 : Int) - 53)
  let (n, d) := scaleDown num den guess
  if n / d < 2 ^ (53 : Nat) then guess else guess + 1

/-- The double nearest to the quotient of two naturals, the second not zero, with a sign put in
front. A tie goes to the even mantissa. -/
def nearest (negative : Bool) (num den : Nat) : Double :=
  if num = 0 then finite negative 0 minExponent else
  let exponent := exponentFor num den
  let (n, d) := scaleDown num den exponent
  let rounded := roundQuotient n d
  let (mantissa, exponent) :=
    if rounded = 2 ^ (53 : Nat) then (2 ^ (52 : Nat), exponent + 1) else (rounded, exponent)
  if maxExponent < exponent then infinite negative else finite negative mantissa exponent

/-- The double nearest to a natural number. -/
def ofNat (n : Nat) : Double := nearest false n 1

/-- The double nearest to an integer. -/
def ofInt (n : Int) : Double := nearest (decide (n < 0)) n.natAbs 1

def zero : Double := ofNat 0

def one : Double := ofNat 1

/-- The double nearest to `digits * 10 ^ scale`, with a sign put in front. -/
def ofDecimal (negative : Bool) (digits : Nat) (scale : Int) : Double :=
  if digits = 0 then nearest negative 0 1
  else if 400 < scale then infinite negative
  else if scale + (digits.log2 : Int) < -1200 then nearest negative 0 1
  else if 0 ≤ scale then nearest negative (digits * 10 ^ scale.toNat) 1
  else nearest negative digits (10 ^ (-scale).toNat)

/-- Whether a double is zero, of either sign. -/
def isZero : Double → Bool
  | finite _ mantissa _ => mantissa = 0
  | _ => false

/-- Whether there is a sign in front of a double. -/
def isNegative : Double → Bool
  | finite negative _ _ => negative
  | infinite negative => negative
  | nan => false

/-- The double nearest to a product. -/
def mul : Double → Double → Double
  | nan, _ => nan
  | _, nan => nan
  | finite a m e, finite b n f =>
    let (num, den) := scaleDown (m * n) 1 (-(e + f))
    nearest (a != b) num den
  | infinite a, y => if y.isZero then nan else infinite (a != y.isNegative)
  | x, infinite b => if x.isZero then nan else infinite (x.isNegative != b)

/-- The double nearest to a quotient. -/
def div : Double → Double → Double
  | nan, _ => nan
  | _, nan => nan
  | infinite _, infinite _ => nan
  | infinite a, y => infinite (a != y.isNegative)
  | x, infinite b => nearest (x.isNegative != b) 0 1
  | finite a m e, finite b n f =>
    if n = 0 then if m = 0 then nan else infinite (a != b)
    else
      let (num, den) := scaleDown m n (f - e)
      nearest (a != b) num den

/-- The double nearest to `10 ^ n`. -/
def powerOfTen (n : Nat) : Double := nearest false (10 ^ n) 1

/-- The exponent of the greatest power of ten that is a finite double. -/
def greatestPower : Nat := 308

/-- A double over `10 ^ n`, with a rounding after each division: the greatest power of ten goes into
it for as long as there is more to divide by, but not into zero. -/
def overPower : (rounds n : Nat) → Double → Double
  | 0, n, x => x.div (powerOfTen n)
  | rounds + 1, n, x =>
    if n ≤ greatestPower then x.div (powerOfTen n)
    else if x.isZero then x
    else overPower rounds (n - greatestPower) (x.div (powerOfTen greatestPower))

/-- A double times `10 ^ exponent`, with the power rounded as well as the result. It may differ from
the nearest double. -/
def scaleByTen (x : Double) (exponent : Int) : Double :=
  let n := exponent.natAbs
  if exponent < 0 then overPower (n / greatestPower) n x
  else if n ≤ greatestPower then x.mul (powerOfTen n)
  else if x.isZero then x
  else infinite x.isNegative

/-- A finite double as a whole number of the least positive double, `2 ^ -1074`. -/
def units : Double → Int
  | finite negative mantissa exponent =>
    let magnitude := mantissa * 2 ^ (exponent - minExponent).toNat
    if negative then -(magnitude : Int) else magnitude
  | _ => 0

/-- Whether a double is at most another one; not a number is neither above nor below anything. -/
def le : Double → Double → Bool
  | nan, _ => false
  | _, nan => false
  | infinite true, _ => true
  | _, infinite false => true
  | infinite false, _ => false
  | _, infinite true => false
  | a, b => a.units ≤ b.units

/-- The double nearest to one minus a double between zero and one. -/
def complement (x : Double) : Double :=
  nearest false (2 ^ (1074 : Nat) - x.units.toNat) (2 ^ (1074 : Nat))

def toBits : Double → Nat
  | finite negative mantissa exponent =>
    (if negative then 2 ^ (63 : Nat) else 0) +
      if mantissa < 2 ^ (52 : Nat) then mantissa
      else (exponent - minExponent + 1).toNat * 2 ^ (52 : Nat) + (mantissa - 2 ^ (52 : Nat))
  | infinite negative => (if negative then 2 ^ (63 : Nat) else 0) + 0x7FF0000000000000
  | nan => 0x7FF8000000000000

end Double

end LocaleLint
