import LocaleLint.Json.Mismatch
import LocaleLint.Json.Reader

/-!
# Reading values of a kind

Readers for texts of which it is known what they should hold. A reader notices a mismatch where it
occurs in the text, in front of any fault further on.
-/

namespace LocaleLint.Json

/-- What a reader for values of a kind gives: a result, or what is wrong. -/
abbrev Typed := Except (Stop Cause)

/-- A reader that knows no kinds, as one that does. -/
def untyped {α : Type} (result : Scan α) : Typed α :=
  result.mapError fun stop => ⟨.fault stop.cause, stop.rest, stop.ahead⟩

/-- Stops in front of the rest with a mismatch. -/
def mismatchBefore {α : Type} (mismatch : Mismatch) (rest : Text) : Typed α :=
  stopBefore (.mismatch mismatch) rest

/-- Stops at the first character of the rest with a fault. -/
def faultAt {α : Type} (fault : Fault) (rest : Text) : Typed α := stopAt (.fault fault) rest

/-- A result in front of the rest, or the mismatch there. -/
def placed {α : Type} (result : Except Mismatch α) (rest : Text) : Typed (α × Text) :=
  match result with
  | .ok a => .ok (a, rest)
  | .error mismatch => mismatchBefore mismatch rest

/-- Stops with the mismatch of a value that is not of the expected kind: in front of a container, or
behind another value. -/
def readWrong {α : Type} (expected : Text) (text : Text) : Typed α :=
  match skipBlank text with
  | '[' :: rest => mismatchBefore (.wrongType "sequence".toList expected) ('[' :: rest)
  | '\x7b' :: rest => mismatchBefore (.wrongType "map".toList expected) ('\x7b' :: rest)
  | text => do
    let (value, rest) ← untyped (readValue 0 text)
    mismatchBefore (.wrongType value.description expected) rest

def readNumberAs {α : Type} (meaning : Number → Except Mismatch α) (expected text : Text) :
    Typed (α × Text) :=
  match skipBlank text with
  | '-' :: rest => do
    let (n, rest) ← untyped (readUnsigned true rest)
    placed (meaning n) rest
  | [] => faultAt .endInValue []
  | c :: rest =>
    if isDigit c then do
      let (n, rest) ← untyped (readUnsigned false (c :: rest))
      placed (meaning n) rest
    else readWrong expected (c :: rest)

def readCount (text : Text) : Typed (Nat × Text) :=
  readNumberAs Number.toCount "usize".toList text

def readDouble (text : Text) : Typed (Double × Text) :=
  readNumberAs (fun n => .ok n.toDouble) "f64".toList text

def readText (expected text : Text) : Typed (Text × Text) :=
  match skipBlank text with
  | '"' :: rest => untyped (readString rest)
  | text => readWrong expected text

/-- Reads the rest of a list of texts. Each takes a character at least, so `fuel` is the length of
the text. -/
def readTextItems : (fuel : Nat) → (first : Bool) → Text → Typed (List Text × Text)
  | 0, _, text => faultAt .endInList text
  | fuel + 1, first, text => do
    match ← untyped (nextItem first text) with
    | .inr rest => return ([], rest)
    | .inl text =>
      let (item, rest) ← readText "a string".toList text
      let (items, rest) ← readTextItems fuel false rest
      return (item :: items, rest)

def readTexts (text : Text) : Typed (List Text × Text) :=
  match skipBlank text with
  | '[' :: rest => readTextItems (rest.length + 1) true rest
  | text => readWrong "a sequence".toList text

/-- Reads a value that is nothing. -/
def readNull (text : Text) : Typed Text :=
  match skipBlank text with
  | 'n' :: rest => untyped (readWord "ull".toList rest)
  | text => readWrong "unit".toList text

/-- Reads one of several words by its meaning: a string, or an object with the word as its only name
and nothing as the value. -/
def readWordIn {α : Type} (words : List (Text × α)) (text : Text) : Typed (α × Text) :=
  match skipBlank text with
  | '"' :: rest => do
    let (word, rest) ← untyped (readString rest)
    placed (wordIn words word) rest
  | '\x7b' :: rest => do
    let (word, rest) ← readText "variant identifier".toList rest
    let (a, rest) ← placed (wordIn words word) rest
    let rest ← untyped (readColon rest)
    let rest ← readNull rest
    match skipBlank rest with
    | '\x7d' :: rest => return (a, rest)
    | [] => stopBefore (.fault .endInObject) []
    | rest => stopBefore (.fault .valueMissing) rest
  | [] => faultAt .endInValue []
  | text => faultAt .valueMissing text

end LocaleLint.Json
