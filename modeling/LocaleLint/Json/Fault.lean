import LocaleLint.Text.Basic

/-!
# Faults in JSON texts

What is wrong with a text that is not JSON, and where that shows.
-/

namespace LocaleLint.Json

/-- What is wrong with a text that is not JSON. -/
inductive Fault where
  | endInList
  | endInObject
  | endInString
  | endInValue
  | colonMissing
  | listCommaMissing
  | objectCommaMissing
  | wordBroken
  | valueMissing
  | escapeUnknown
  | numberBroken
  | numberTooLarge
  | controlCharacter
  | nameMissing
  | surrogateAlone
  | surrogateUnpaired
  | commaTrailing
  | textTrailing
  | nestedTooDeep
deriving Repr, DecidableEq

def Fault.message : Fault → Text
  | endInList => "EOF while parsing a list".toList
  | endInObject => "EOF while parsing an object".toList
  | endInString => "EOF while parsing a string".toList
  | endInValue => "EOF while parsing a value".toList
  | colonMissing => "expected `:`".toList
  | listCommaMissing => "expected `,` or `]`".toList
  | objectCommaMissing => "expected `,` or `\x7d`".toList
  | wordBroken => "expected ident".toList
  | valueMissing => "expected value".toList
  | escapeUnknown => "invalid escape".toList
  | numberBroken => "invalid number".toList
  | numberTooLarge => "number out of range".toList
  | controlCharacter =>
    "control character (\\u0000-\\u001F) found while parsing a string".toList
  | nameMissing => "key must be a string".toList
  | surrogateAlone => "lone leading surrogate in hex escape".toList
  | surrogateUnpaired => "unexpected end of hex escape".toList
  | commaTrailing => "trailing comma".toList
  | textTrailing => "trailing characters".toList
  | nestedTooDeep => "recursion limit exceeded".toList

/-- A place in a text: the line, counted from one, and the number of bytes of it up to there. -/
structure Place where
  line : Nat
  column : Nat
deriving Repr, DecidableEq

/-- The place behind the first `count` bytes of a text that goes on at a place. -/
def Place.advance (place : Place) : (count : Nat) → Text → Place
  | 0, _ => place
  | _, [] => place
  | count + 1, c :: rest =>
    if count + 1 < c.utf8Size then ⟨place.line, place.column + (count + 1)⟩
    else
      let next := if c = '\n' then ⟨place.line + 1, 0⟩ else ⟨place.line, place.column + c.utf8Size⟩
      Place.advance next (count + 1 - c.utf8Size) rest

/-- The place behind the first `count` bytes of a text. -/
def Place.ofOffset (text : Text) (count : Nat) : Place := Place.advance ⟨1, 0⟩ count text

def atPlace (message : Text) : Option Place → Text
  | none => message
  | some place =>
    message ++ " at line ".toList ++ Text.ofNat place.line ++ " column ".toList ++
      Text.ofNat place.column

end LocaleLint.Json
