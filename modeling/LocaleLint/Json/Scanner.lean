import LocaleLint.Json.Basic
import LocaleLint.Json.Fault

/-!
# The smallest parts of JSON texts

Readers for white space, strings, numbers and words. A reader takes a text and gives what it has
read with the rest of the text, or the fault that it meets.
-/

namespace LocaleLint.Json

-- Powers are those of the core library, whatever else is imported.
attribute [local instance (high)] instPowNat

/-- Where a reader stops: the cause, the rest of the text, and how many bytes further on the cause
shows. -/
structure Stop (ε : Type) where
  cause : ε
  rest : Text
  ahead : Nat
deriving Repr, DecidableEq

/-- What a reader gives: a result, mostly a value with the rest of the text, or a fault. -/
abbrev Scan := Except (Stop Fault)

/-- Stops at the first character of the rest, or at the end. -/
def stopAt {ε α : Type} (cause : ε) (rest : Text) : Except (Stop ε) α := .error ⟨cause, rest, 1⟩

/-- Stops in front of the rest. -/
def stopBefore {ε α : Type} (cause : ε) (rest : Text) : Except (Stop ε) α :=
  .error ⟨cause, rest, 0⟩

def Stop.place {ε : Type} (text : Text) (stop : Stop ε) : Place :=
  .ofOffset text (text.utf8Length - stop.rest.utf8Length + stop.ahead)

/-- The white space of JSON. -/
def isBlank (c : Char) : Bool := c == ' ' || c == '\n' || c == '\t' || c == '\r'

/-- A text from its first character on that is not white space. -/
def skipBlank (text : Text) : Text := text.dropWhile isBlank

/-- The value of a hexadecimal digit. -/
def hexValue? (c : Char) : Option Nat :=
  if '0' ≤ c ∧ c ≤ '9' then some (c.toNat - 48)
  else if 'a' ≤ c ∧ c ≤ 'f' then some (c.toNat - 87)
  else if 'A' ≤ c ∧ c ≤ 'F' then some (c.toNat - 55)
  else none

/-- The number that hexadecimal digits stand for. -/
def hexNumber? (digits : Text) : Option Nat :=
  digits.foldlM (fun n c => (hexValue? c).map (16 * n + ·)) 0

/-- Reads the four hexadecimal digits of an escape. -/
def readUnit (text : Text) : Scan (Nat × Text) :=
  if Text.utf8Length (text.take 4) < 4 then stopBefore .endInString []
  else match hexNumber? (text.take 4) with
    | some n => .ok (n, text.drop 4)
    | none => .error ⟨.escapeUnknown, text, 4⟩

/-- Whether a number is the first half of a surrogate pair. -/
def isLeading (n : Nat) : Bool := 0xD800 ≤ n && n ≤ 0xDBFF

/-- Whether a number is the second half of a surrogate pair. -/
def isTrailing (n : Nat) : Bool := 0xDC00 ≤ n && n ≤ 0xDFFF

/-- The character of a surrogate pair. -/
def pairChar (leading trailing : Nat) : Char :=
  Char.ofNat (0x10000 + (leading - 0xD800) * 0x400 + (trailing - 0xDC00))

/-- Reads the second half of a surrogate pair. -/
def readTrailing (leading : Nat) : Text → Scan (Char × Text)
  | '\\' :: 'u' :: rest => do
    let (trailing, rest) ← readUnit rest
    if isTrailing trailing then return (pairChar leading trailing, rest)
    else stopBefore .surrogateAlone rest
  | [] => stopBefore .endInString []
  | ['\\'] => stopBefore .endInString []
  | '\\' :: rest => stopAt .surrogateUnpaired rest
  | rest => stopAt .surrogateUnpaired rest

def readNumbered (text : Text) : Scan (Char × Text) := do
  let (unit, rest) ← readUnit text
  if isTrailing unit then stopBefore .surrogateAlone rest
  else if isLeading unit then readTrailing unit rest
  else return (Char.ofNat unit, rest)

/-- Reads what follows a backslash. -/
def readEscaped : Text → Scan (Char × Text)
  | [] => stopBefore .endInString []
  | c :: rest =>
    match c with
    | '"' => .ok ('"', rest)
    | '\\' => .ok ('\\', rest)
    | '/' => .ok ('/', rest)
    | 'b' => .ok ('\x08', rest)
    | 'f' => .ok ('\x0c', rest)
    | 'n' => .ok ('\n', rest)
    | 'r' => .ok ('\r', rest)
    | 't' => .ok ('\t', rest)
    | 'u' => readNumbered rest
    | _ => stopAt .escapeUnknown (c :: rest)

/-- Reads the characters of a string up to the quote that ends it. Each takes a character of the
text at least, so `fuel` is the length of the text. -/
def readChars : (fuel : Nat) → Text → Scan (Text × Text)
  | 0, text => stopBefore .endInString text
  | _ + 1, [] => stopBefore .endInString []
  | fuel + 1, c :: rest =>
    if c = '"' then .ok ([], rest)
    else if c = '\\' then do
      let (d, rest) ← readEscaped rest
      let (ds, rest) ← readChars fuel rest
      return (d :: ds, rest)
    else if c.toNat < 0x20 then stopAt .controlCharacter (c :: rest)
    else do
      let (ds, rest) ← readChars fuel rest
      return (c :: ds, rest)

/-- Reads what follows the quote that starts a string. -/
def readString (text : Text) : Scan (Text × Text) := readChars (text.length + 1) text

/-- The numerals of a number: its sign, its digits in front of the point and behind it, and its
exponent; a part that is not written is absent. -/
structure Numeral where
  negative : Bool
  whole : Text
  fraction : Option Text
  exponent : Option (Bool × Text)
deriving Repr, DecidableEq

def isDigit (c : Char) : Bool := (Text.digitValue? c).isSome

/-- The number that decimal digits stand for. -/
def decimalValue (digits : Text) : Nat := (Text.readDigits 0 digits).getD 0

/-- The greatest exponent that is written. -/
def exponentLimit : Nat := 2 ^ (31 : Nat) - 1

/-- Reads the digits in front of the point: a zero alone, or digits that start with another one. -/
def readWhole : Text → Scan (Text × Text)
  | [] => stopAt .endInValue []
  | '0' :: rest =>
    if rest.head?.any isDigit then stopAt .numberBroken rest else .ok (['0'], rest)
  | c :: rest =>
    if isDigit c then .ok ((c :: rest).span isDigit) else stopAt .numberBroken (c :: rest)

def readDigits (text : Text) : Scan (Text × Text) :=
  match text.span isDigit with
  | ([], []) => stopAt .endInValue []
  | ([], rest) => stopAt .numberBroken rest
  | (digits, rest) => .ok (digits, rest)

/-- Reads the point and the digits behind it, if there is a point. -/
def readFraction : Text → Scan (Option Text × Text)
  | '.' :: rest => do
    let (digits, rest) ← readDigits rest
    return (some digits, rest)
  | rest => .ok (none, rest)

/-- Reads the sign and the digits of an exponent. -/
def readSigned : Text → Scan ((Bool × Text) × Text)
  | '-' :: rest => do
    let (digits, rest) ← readDigits rest
    return ((true, digits), rest)
  | '+' :: rest => do
    let (digits, rest) ← readDigits rest
    return ((false, digits), rest)
  | rest => do
    let (digits, rest) ← readDigits rest
    return ((false, digits), rest)

def readExponent : Text → Scan (Option (Bool × Text) × Text)
  | c :: rest =>
    if c = 'e' ∨ c = 'E' then do
      let (exponent, rest) ← readSigned rest
      return (some exponent, rest)
    else .ok (none, c :: rest)
  | [] => .ok (none, [])

/-- Puts digits behind a number for as long as 64 bits hold it: the number, and the digits that are
left. -/
def pushDigits : (n : Nat) → Text → Nat × Text
  | n, [] => (n, [])
  | n, c :: rest =>
    let next := 10 * n + (Text.digitValue? c).getD 0
    if next < 2 ^ (64 : Nat) then pushDigits next rest else (n, c :: rest)

/-- Whether a number is beyond all finite doubles. -/
def Number.isInfinite : Number → Bool
  | .double (.infinite _) => true
  | _ => false

namespace Numeral

/-- The whole number that the digits stand for, without the point. -/
def significand (numeral : Numeral) : Nat :=
  decimalValue (numeral.whole ++ numeral.fraction.getD [])

def writtenExponent (numeral : Numeral) : Int :=
  match numeral.exponent with
  | some (true, digits) => -(decimalValue digits : Int)
  | some (false, digits) => decimalValue digits
  | none => 0

/-- The first digits, as many as 64 bits hold, and the exponent that belongs to them without the
point. Digits that are left in front of the point count as zeros, those behind it not at all. -/
def leading (numeral : Numeral) : Nat × Int :=
  let (whole, zeros) := pushDigits 0 numeral.whole
  let fraction := numeral.fraction.getD []
  let (digits, ignored) := pushDigits whole fraction
  (digits, numeral.writtenExponent + zeros.length - (fraction.length - ignored.length : Nat))

/-- The double of a number: near to it, but not always the nearest one. -/
def toDouble (numeral : Numeral) : Double :=
  let (digits, exponent) := numeral.leading
  (Double.nearest numeral.negative digits 1).scaleByTen exponent

/-- The number of a numeral without point and exponent. Minus zero is a double, and so is a number
that 64 bits do not hold. -/
def toNumber (numeral : Numeral) : Number :=
  let n := numeral.significand
  if numeral.fraction.isSome ∨ numeral.exponent.isSome then .double numeral.toDouble
  else if numeral.negative then
    if n ≠ 0 ∧ n ≤ 2 ^ (63 : Nat) then .integer (-n) else .double numeral.toDouble
  else if n < 2 ^ (64 : Nat) then .integer n else .double numeral.toDouble

/-- How many digits of an exponent are read before it is beyond the limit, if it is. -/
def excess? (digits : Text) : Option Nat :=
  (List.range (digits.length + 1)).find? fun n => exponentLimit < decimalValue (digits.take n)

/-- Where a number that is too large stops: behind it, or where its exponent is seen to be beyond
the limit. `written` is the text of the exponent's digits and what follows. -/
def stopLarge (numeral : Numeral) (written rest : Text) : Option Text :=
  match numeral.exponent with
  | some (false, digits) =>
    match excess? digits with
    | some n => if numeral.leading.1 = 0 then none else some (written.drop n)
    | none => if numeral.toNumber.isInfinite then some rest else none
  | _ => if numeral.toNumber.isInfinite then some rest else none

end Numeral

/-- Reads a number behind its sign. -/
def readUnsigned (negative : Bool) (text : Text) : Scan (Number × Text) := do
  let (whole, rest) ← readWhole text
  let (fraction, rest) ← readFraction rest
  let (exponent, rest) ← readExponent rest
  let numeral : Numeral := ⟨negative, whole, fraction, exponent⟩
  let written := (exponent.map (·.2)).getD [] ++ rest
  match numeral.stopLarge written rest with
  | some stop => stopBefore .numberTooLarge stop
  | none => return (numeral.toNumber, rest)

/-- Reads the rest of a word whose first character is known. -/
def readWord : (word : Text) → Text → Scan Text
  | [], rest => .ok rest
  | _ :: _, [] => stopBefore .endInValue []
  | w :: word, c :: rest => if w = c then readWord word rest else stopAt .wordBroken (c :: rest)

end LocaleLint.Json
