import LocaleLint.Pattern.Ast
import LocaleLint.Pattern.Fault

/-!
# Escapes

Reading what follows a backslash. In verbose mode, white space and comments between the parts of an
escape mean nothing.
-/

namespace LocaleLint.Pattern

/-- What is left of a text after white space and comments; a comment runs to the end of its line. -/
def skipBlank : (comment : Bool) → Text → Text
  | _, [] => []
  | true, c :: rest => skipBlank (c ≠ '\n') rest
  | false, c :: rest =>
    if Text.isWhite c then skipBlank false rest
    else if c = '#' then skipBlank true rest
    else c :: rest

/-- What is left of a text after what verbose mode leaves out. -/
def skip (verbose : Bool) (text : Text) : Text := if verbose then skipBlank false text else text

/-- The characters in front of a text that satisfy a condition, and what follows them. White space
and comments between them are left out in verbose mode; at most `fuel` characters are taken. -/
def spanSkipping (verbose : Bool) (p : Char → Bool) : (fuel : Nat) → Text → Text × Text
  | 0, text => ([], text)
  | _ + 1, [] => ([], [])
  | fuel + 1, c :: rest =>
    if p c then
      let (taken, after) := spanSkipping verbose p fuel (skip verbose rest)
      (c :: taken, after)
    else ([], c :: rest)

/-- The characters in front of a text that satisfy a condition, and what follows them. -/
def takeSkipping (verbose : Bool) (p : Char → Bool) (text : Text) : Text × Text :=
  spanSkipping verbose p text.length text

/-- What an escape stands for, or a character that needs none. -/
inductive Primitive where
  | literal (l : Literal)
  | assertion (kind : Assertion)
  | letter (kind : LetterClass) (negated : Bool)
  | property (query : PropertyQuery) (negated : Bool)
deriving Repr

/-- A character that stands for itself. -/
def Primitive.verbatim (c : Char) : Primitive := .literal ⟨c, false⟩

/-- The value of a hexadecimal digit. -/
def hexValue? (c : Char) : Option Nat :=
  if '0' ≤ c ∧ c ≤ '9' then some (c.toNat - 48)
  else if 'a' ≤ c ∧ c ≤ 'f' then some (c.toNat - 87)
  else if 'A' ≤ c ∧ c ≤ 'F' then some (c.toNat - 55)
  else none

/-- The character with a number, if there is one. -/
def scalar? (n : Nat) : Option Char := if h : n.isValidChar then some (Char.ofNatAux n h) else none

/-- Reads a fixed number of hexadecimal digits behind a value. -/
def readHexDigits (verbose : Bool) :
    (count : Nat) → (value : Nat) → Text → Except Fault (Nat × Text)
  | 0, value, text => .ok (value, text)
  | _ + 1, _, [] => .error .escapeAtEnd
  | count + 1, value, c :: rest =>
    match hexValue? c with
    | none => .error .hexDigit
    | some d => readHexDigits verbose count (16 * value + d) (skip verbose rest)

/-- Reads the digits of a character in hexadecimal: a fixed number of them, or any number in
braces. -/
def readHex (verbose : Bool) (count : Nat) (text : Text) : Except Fault (Primitive × Text) :=
  match skip verbose text with
  | [] => .error .escapeAtEnd
  | '\x7b' :: inside =>
    let (digits, after) := takeSkipping verbose (· ≠ '\x7d') (skip verbose inside)
    if !digits.all fun c => (hexValue? c).isSome then .error .hexDigit else
    match after with
    | [] => .error .escapeAtEnd
    | _ :: rest =>
      if digits.isEmpty then .error .hexEmpty else
      let value := digits.foldl (fun n c => 16 * n + (hexValue? c).getD 0) 0
      match scalar? value with
      | none => .error .hexNotScalar
      | some c => .ok (.verbatim c, skip verbose rest)
  | text => do
    let (value, rest) ← readHexDigits verbose count 0 text
    match scalar? value with
    | none => throw .hexNotScalar
    | some c => return (.literal ⟨c, count == 2⟩, rest)

/-- Cuts a text before and after the first place where a word occurs in it. -/
def cutAt? (word : Text) : Text → Option (Text × Text)
  | [] => none
  | c :: rest =>
    match Text.dropPrefix? word (c :: rest) with
    | some after => some ([], after)
    | none => (cutAt? word rest).map fun (before, after) => (c :: before, after)

/-- The query that stands in the braces of a property class. The three signs between a property and
its value mean the same; only the letter before the braces negates. -/
def PropertyQuery.ofText (text : Text) : PropertyQuery :=
  match cutAt? ['!', '='] text with
  | some (property, value) => .valued property value
  | none =>
    match cutAt? [':'] text with
    | some (property, value) => .valued property value
    | none =>
      match cutAt? ['='] text with
      | some (property, value) => .valued property value
      | none => .named text

/-- Reads a property class behind its letter: one letter, or a query in braces. -/
def readProperty (verbose negated : Bool) (text : Text) : Except Fault (Primitive × Text) :=
  match skip verbose text with
  | [] => .error .escapeAtEnd
  | '\x7b' :: inside =>
    let (content, after) := takeSkipping verbose (· ≠ '\x7d') (skip verbose inside)
    match after with
    | [] => .error .escapeAtEnd
    | _ :: rest => .ok (.property (.ofText content) negated, rest)
  | c :: rest =>
    if c = '\\' then .error .propertyMalformed
    else .ok (.property (.named [c]) negated, skip verbose rest)

def namedBoundary? (name : Text) : Option Assertion :=
  if name = "start".toList then some .wordStart
  else if name = "end".toList then some .wordEnd
  else if name = "start-half".toList then some .wordStartHalf
  else if name = "end-half".toList then some .wordEndHalf
  else none

/-- Whether a character may stand in the name of a word boundary. -/
def isBoundaryLetter (c : Char) : Bool := c.isAlpha || c == '-'

/-- Reads what may follow a word boundary: a name in braces. Braces with something else are left to
the repetitions. -/
def readBoundary (verbose : Bool) (text : Text) : Except Fault (Primitive × Text) :=
  match text with
  | '\x7b' :: inside =>
    match skip verbose inside with
    | [] => .error .wordBoundaryAtEnd
    | c :: more =>
      if !isBoundaryLetter c then .ok (.assertion .wordBoundary, text) else
      let (name, after) := takeSkipping verbose isBoundaryLetter (c :: more)
      match after with
      | '\x7d' :: rest =>
        match namedBoundary? name with
        | some kind => .ok (.assertion kind, rest)
        | none => .error .wordBoundaryUnknown
      | _ => .error .wordBoundaryUnclosed
  | _ => .ok (.assertion .wordBoundary, text)

/-- The characters that mean something in a pattern. -/
def isMeta (c : Char) : Bool := "\\.+*?()|[]\x7b\x7d^$#&-~".toList.contains c

/-- Whether a backslash before a character that means nothing is allowed. -/
def isEscapable (c : Char) : Bool := c.toNat < 128 && !c.isAlphanum && c != '<' && c != '>'

/-- What a letter after a backslash stands for, if it needs nothing more. -/
def letterEscape? : Char → Option Primitive
  | 'd' => some (.letter .digit false)
  | 'D' => some (.letter .digit true)
  | 's' => some (.letter .space false)
  | 'S' => some (.letter .space true)
  | 'w' => some (.letter .word false)
  | 'W' => some (.letter .word true)
  | 'a' => some (.verbatim '\x07')
  | 'f' => some (.verbatim '\x0c')
  | 't' => some (.verbatim '\t')
  | 'n' => some (.verbatim '\n')
  | 'r' => some (.verbatim '\r')
  | 'v' => some (.verbatim '\x0b')
  | 'A' => some (.assertion .textStart)
  | 'z' => some (.assertion .textEnd)
  | 'B' => some (.assertion .notWordBoundary)
  | '<' => some (.assertion .wordStart)
  | '>' => some (.assertion .wordEnd)
  | _ => none

/-- Reads an escape behind its backslash. -/
def readEscape (verbose : Bool) : Text → Except Fault (Primitive × Text)
  | [] => .error .escapeAtEnd
  | c :: rest =>
    if c.isDigit then .error .backreference
    else if c = 'x' then readHex verbose 2 rest
    else if c = 'u' then readHex verbose 4 rest
    else if c = 'U' then readHex verbose 8 rest
    else if c = 'p' then readProperty verbose false rest
    else if c = 'P' then readProperty verbose true rest
    else if c = 'b' then readBoundary verbose rest
    else match letterEscape? c with
      | some primitive => .ok (primitive, rest)
      | none =>
        if isMeta c || isEscapable c then .ok (.verbatim c, rest) else .error .escapeUnknown

end LocaleLint.Pattern
