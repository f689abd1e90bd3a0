import LocaleLint.Pattern.Escape

/-!
# Classes in brackets

Reading a class from its opening bracket to the bracket that closes it. Classes nest, and the
operations on them group to the left.
-/

namespace LocaleLint.Pattern

/-- What is open while a class is read: brackets with what stands before them, and operations with
their left side. -/
inductive ClassFrame where
  | bracket (before : List ClassSet) (negated : Bool)
  | operation (op : SetOperation) (left : ClassSet)

/-- The class of several items, which are given in reverse. -/
def ClassSet.ofReversed : List ClassSet → ClassSet
  | [set] => set
  | sets => .items sets.reverse

def AsciiClass.named? (name : Text) : Option AsciiClass :=
  match String.ofList name with
  | "alnum" => some .alnum
  | "alpha" => some .alpha
  | "ascii" => some .ascii
  | "blank" => some .blank
  | "cntrl" => some .cntrl
  | "digit" => some .digit
  | "graph" => some .graph
  | "lower" => some .lower
  | "print" => some .print
  | "punct" => some .punct
  | "space" => some .space
  | "upper" => some .upper
  | "word" => some .word
  | "xdigit" => some .xdigit
  | _ => none

/-- Reads a named class of ASCII characters behind its bracket, if there is one. -/
def readAsciiClass? : Text → Option (ClassSet × Text)
  | ':' :: inside =>
    let (negated, inside) := match inside with
      | '^' :: rest => (true, rest)
      | _ => (false, inside)
    let (name, after) := inside.span (· ≠ ':')
    match after with
    | ':' :: ']' :: rest => (AsciiClass.named? name).map fun kind => (.ascii kind negated, rest)
    | _ => none
  | _ => none

/-- What a class holds directly behind its opening bracket: whether it is negated, and the dashes
or the closing bracket that stand for themselves there. -/
def readOpening (verbose : Bool) (text : Text) : Except Fault (Bool × List ClassSet × Text) :=
  let text := skip verbose text
  let (negated, text) := match text with
    | '^' :: rest => (true, skip verbose rest)
    | _ => (false, text)
  let (dashes, text) := takeSkipping verbose (· == '-') text
  match text with
  | [] => .error .classUnclosed
  | c :: rest =>
    if dashes.isEmpty && c == ']' then
      match skip verbose rest with
      | [] => .error .classUnclosed
      | rest => .ok (negated, [.literal ⟨']', false⟩], rest)
    else .ok (negated, dashes.map fun d => .literal ⟨d, false⟩, text)

/-- Reads one character or escape of a class. -/
def readClassPrimitive (verbose : Bool) : Text → Except Fault (Primitive × Text)
  | '\\' :: rest => readEscape verbose rest
  | c :: rest => .ok (.verbatim c, rest)
  | [] => .error .classUnclosed

def Primitive.toClassSet : Primitive → Except Fault ClassSet
  | .literal l => .ok (.literal l)
  | .letter kind negated => .ok (.letter kind negated)
  | .property query negated => .ok (.property query negated)
  | .assertion _ => .error .classEscape

/-- A primitive as an end of a range. -/
def Primitive.toBoundary : Primitive → Except Fault Literal
  | .literal l => .ok l
  | _ => .error .classRangeBoundary

/-- The first character of a text that is neither white space nor the mark of a comment. -/
def peekBlank : (comment : Bool) → Text → Option Char
  | _, [] => none
  | comment, c :: rest =>
    if Text.isWhite c then peekBlank comment rest
    else if !comment && c == '#' then peekBlank true rest
    else some c

/-- The character that follows a dash in a class. -/
def peekAfterDash (verbose : Bool) (rest : Text) : Option Char :=
  if verbose then (peekBlank false rest).or rest.head? else rest.head?

/-- Reads one item of a class: a range, or a single character or escape. -/
def readClassItem (verbose : Bool) (text : Text) : Except Fault (ClassSet × Text) := do
  let (first, text) ← readClassPrimitive verbose text
  match skip verbose text with
  | [] => throw .classUnclosed
  | '-' :: rest =>
    let peeked := peekAfterDash verbose rest
    if peeked == some ']' || peeked == some '-' then
      return (← first.toClassSet, '-' :: rest)
    match skip verbose rest with
    | [] => throw .classUnclosed
    | text =>
      let (last, text) ← readClassPrimitive verbose text
      let first ← first.toBoundary
      let last ← last.toBoundary
      if last.char < first.char then throw .classRangeOrder
      return (.range first last, text)
  | text => return (← first.toClassSet, text)

/-- Gives a right side to the operation that waits for one. -/
def closeOperation (right : ClassSet) : List ClassFrame → ClassSet × List ClassFrame
  | .operation op left :: frames => (.operation op left right, frames)
  | frames => (right, frames)

/-- Reads a class up to the bracket that closes the outermost of the open brackets. `items` are the
items of the innermost class in reverse; each round takes at least one character, so `fuel` is the
length of the text. -/
def readClassItems (verbose : Bool) :
    (fuel : Nat) → List ClassFrame → (items : List ClassSet) → Text → Except Fault (Ast × Text)
  | 0, _, _, _ => .error .classUnclosed
  | fuel + 1, frames, items, text =>
    let operate (op : SetOperation) (rest : Text) :=
      let (left, frames) := closeOperation (.ofReversed items) frames
      readClassItems verbose fuel (.operation op left :: frames) [] rest
    match skip verbose text with
    | [] => .error .classUnclosed
    | '[' :: rest =>
      match readAsciiClass? rest with
      | some (item, rest) => readClassItems verbose fuel frames (item :: items) rest
      | none => do
        let (negated, first, rest) ← readOpening verbose rest
        readClassItems verbose fuel (.bracket items negated :: frames) first rest
    | ']' :: rest =>
      match closeOperation (.ofReversed items) frames with
      | (set, [.bracket _ negated]) => .ok (.bracketed negated set, rest)
      | (set, .bracket before negated :: frames) =>
        readClassItems verbose fuel frames (.bracketed negated set :: before) rest
      | _ => .error .classUnclosed
    | '&' :: '&' :: rest => operate .intersection rest
    | '-' :: '-' :: rest => operate .difference rest
    | '~' :: '~' :: rest => operate .symmetricDifference rest
    | text => do
      let (item, rest) ← readClassItem verbose text
      readClassItems verbose fuel frames (item :: items) rest

/-- Reads a class behind its opening bracket. -/
def readClass (verbose : Bool) (text : Text) : Except Fault (Ast × Text) := do
  let (negated, first, rest) ← readOpening verbose text
  readClassItems verbose (rest.length + 1) [.bracket [] negated] first rest

end LocaleLint.Pattern
