import LocaleLint.Number.Decimal
import LocaleLint.Text.Basic

/-!
# JSON values

A JSON value whose objects keep their members in order. An object has one member for each name when
it is built by `Members.insert`.
-/

namespace LocaleLint

namespace Json

/-- A JSON number. Whole numbers that 64 bits hold are kept as such, all others are doubles. -/
inductive Number where
  | integer (value : Int)
  | double (value : Double)
deriving Repr, DecidableEq

namespace Number

def toDouble : Number → Double
  | integer n => .ofInt n
  | double x => x

/-- The numeral of a number; a double that is not finite has none and is written as nothing. -/
def text : Number → Text
  | integer n => Double.signText (decide (n < 0)) ++ Text.ofNat n.natAbs
  | double x => x.scientificText?.getD "null".toList

end Number

end Json

/-- A JSON value. -/
inductive Json where
  | null
  | bool (value : Bool)
  | number (value : Json.Number)
  | string (value : Text)
  | array (items : List Json)
  | object (members : List (Text × Json))
deriving Repr, Inhabited

namespace Json

/-- The members of an object: names and values in order. -/
abbrev Members := List (Text × Json)

namespace Members

def get? (name : Text) (members : Members) : Option Json := members.lookup name

/-- Sets the value of a name, in its place or else at the end. -/
def insert (name : Text) (value : Json) : Members → Members
  | [] => [(name, value)]
  | (n, v) :: rest => if n = name then (n, value) :: rest else (n, v) :: insert name value rest

/-- Takes a name out. -/
def erase (name : Text) : Members → Members
  | [] => []
  | (n, v) :: rest => if n = name then rest else (n, v) :: erase name rest

/-- The members that are read one after another: a repeated name keeps its first place and takes
the last value. -/
def ofPairs (pairs : List (Text × Json)) : Members :=
  pairs.foldl (fun members (name, value) => insert name value members) []

end Members

/-- Whether a value is an object or an array with nothing in it. -/
def isEmptyContainer : Json → Bool
  | array [] => true
  | object [] => true
  | _ => false

def isString : Json → Bool
  | string _ => true
  | _ => false

def string? : Json → Option Text
  | string s => some s
  | _ => none

def ofTexts (texts : List Text) : Json := array (texts.map string)

/-- A natural number as a JSON value. -/
def ofNat (n : Nat) : Json := number (.integer n)

end Json

end LocaleLint
