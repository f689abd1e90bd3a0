import LocaleLint.Json.Printer
import LocaleLint.Json.Scanner
import LocaleLint.Text.Visible

/-!
# Mismatches

Values that are JSON but not what is expected in their place, and the readers for what settings are
made of: words, numbers, flags and texts.
-/

namespace LocaleLint.Json

/-- Why a value is not what is expected in its place. -/
inductive Mismatch where
  | unknownField (name : Text) (expected : List Text)
  | unknownWord (word : Text) (expected : List Text)
  | missingField (name : Text)
  | duplicateField (name : Text)
  | wrongType (found expected : Text)
  | wrongValue (found expected : Text)
  | wrongLength (length : Nat) (expected : Text)
  | noneFits (detail : Text)
deriving Repr, DecidableEq

/-- A word between backquotes. -/
def tick (word : Text) : Text := '\x60' :: word ++ ['\x60']

/-- A choice of words: two of them are joined by a word, more are listed. -/
def oneOf : List Text → Text
  | [a] => tick a
  | [a, b] => tick a ++ " or ".toList ++ tick b
  | words => "one of ".toList ++ Text.joinWith ", ".toList (words.map tick)

def Mismatch.message : Mismatch → Text
  | unknownField name expected =>
    "unknown field ".toList ++ tick name ++ ", expected ".toList ++ oneOf expected
  | unknownWord word expected =>
    "unknown variant ".toList ++ tick word ++ ", expected ".toList ++ oneOf expected
  | missingField name => "missing field ".toList ++ tick name
  | duplicateField name => "duplicate field ".toList ++ tick name
  | wrongType found expected =>
    "invalid type: ".toList ++ found ++ ", expected ".toList ++ expected
  | wrongValue found expected =>
    "invalid value: ".toList ++ found ++ ", expected ".toList ++ expected
  | wrongLength length expected =>
    "invalid length ".toList ++ Text.ofNat length ++ ", expected ".toList ++ expected
  | noneFits detail => detail

/-- What is wrong with the text of a value that is expected to be of some kind. -/
inductive Cause where
  | fault (fault : Fault)
  | mismatch (mismatch : Mismatch)
deriving Repr, DecidableEq

def Cause.message : Cause → Text
  | fault f => f.message
  | mismatch m => m.message

/-- A cause, and the place where it shows if the text is still at hand. -/
structure Error where
  cause : Cause
  place : Option Place
deriving Repr, DecidableEq

namespace Error

def message (error : Error) : Text := atPlace error.cause.message error.place

def ofStop (text : Text) (stop : Stop Cause) : Error := ⟨stop.cause, some (stop.place text)⟩

end Error

/-- How a number is called in a mismatch. -/
def Number.description : Number → Text
  | integer n => "integer ".toList ++ tick (integer n).text
  | double x => "floating point ".toList ++ tick (double x).text

/-- How a value is called in a mismatch. -/
def description : Json → Text
  | null => "null".toList
  | bool b => "boolean ".toList ++ tick (bool b).scalarText
  | number n => n.description
  | string s => "string ".toList ++ Text.visible s
  | array _ => "sequence".toList
  | object _ => "map".toList

/-- A value of another type than expected. -/
def wrongType {α : Type} (value : Json) (expected : String) : Except Mismatch α :=
  .error (.wrongType value.description expected.toList)

def toText : Json → Except Mismatch Text
  | string s => .ok s
  | value => wrongType value "a string"

def toTexts : Json → Except Mismatch (List Text)
  | array items => items.mapM toText
  | value => wrongType value "a sequence"

/-- The flag that a value is. -/
def toBool : Json → Except Mismatch Bool
  | bool b => .ok b
  | value => wrongType value "a boolean"

def Number.toCount : Number → Except Mismatch Nat
  | integer n =>
    if n < 0 then .error (.wrongValue (integer n).description "usize".toList) else .ok n.toNat
  | double x => .error (.wrongType (double x).description "usize".toList)

def toCount : Json → Except Mismatch Nat
  | number n => n.toCount
  | value => wrongType value "usize"

def toDouble : Json → Except Mismatch Double
  | number n => .ok n.toDouble
  | value => wrongType value "f64"

/-- The meaning of one of several words. -/
def wordIn {α : Type} (words : List (Text × α)) (word : Text) : Except Mismatch α :=
  match words.lookup word with
  | some a => .ok a
  | none => .error (.unknownWord word (words.map (·.1)))

/-- The meaning of a value that is one of several words, or an object with the word as its only
name and nothing as the value. -/
def toWord {α : Type} (words : List (Text × α)) : Json → Except Mismatch α
  | string word => wordIn words word
  | object [(word, value)] => do
    let a ← wordIn words word
    match value with
    | null => return a
    | value => wrongType value "unit"
  | object _ => .error (.wrongValue "map".toList "map with a single key".toList)
  | value => wrongType value "string or map"

/-- A value that may be absent. -/
def toOption {α : Type} (read : Json → Except Mismatch α) : Json → Except Mismatch (Option α)
  | null => .ok none
  | value => (read value).map some

end LocaleLint.Json
