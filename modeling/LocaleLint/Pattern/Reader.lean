import LocaleLint.Pattern.Brackets
import LocaleLint.Unicode.Property

/-!
# Reading patterns

A pattern is read from left to right with a stack of the groups that are open. Main functions:
`Ast.ofText` gives the syntax of a text, or the first fault in it.
-/

namespace LocaleLint.Pattern

-- Powers are those of the core library, whatever else is imported.
attribute [local instance (high)] instPowNat

def Flag.ofLetter? : Char → Option Flag
  | 'i' => some .caseInsensitive
  | 'm' => some .multiLine
  | 's' => some .dotMatchesNewLine
  | 'R' => some .crlf
  | 'U' => some .swapGreed
  | 'u' => some .unicode
  | 'x' => some .verbose
  | _ => none

/-- Reads flags up to the colon or parenthesis behind them. `seen` are the flags so far, `negated`
says that a dash stood among them, and `dangling` that it stood last. -/
def readFlags (seen : List Flag) (negated dangling : Bool) :
    Text → Except Fault (List FlagChange × Text)
  | [] => .error .flagAtEnd
  | c :: rest =>
    if c = ':' ∨ c = ')' then
      if dangling then .error .flagNegationDangling else .ok ([], c :: rest)
    else if c = '-' then
      if negated then .error .flagNegationRepeated else readFlags seen true true rest
    else match Flag.ofLetter? c with
      | none => .error .flagUnknown
      | some flag =>
        if flag ∈ seen then .error .flagDuplicate else
        match readFlags (flag :: seen) negated false rest with
        | .error fault => .error fault
        | .ok (changes, rest) => .ok ((flag, !negated) :: changes, rest)

/-- Whether a character may stand in the name of a group. -/
def isNameChar (first : Bool) (c : Char) : Bool :=
  c == '_' ||
    if first then Unicode.Property.alphabetic.has c
    else c == '.' || c == '[' || c == ']' || Unicode.Property.alphanumeric.has c

/-- Reads the name of a group up to the angle that closes it. -/
def readGroupName (first : Bool) : Text → Except Fault (Text × Text)
  | [] => .error .groupNameUnclosed
  | c :: rest =>
    if c = '>' then .ok ([], rest)
    else if !isNameChar first c then .error .groupNameCharacter
    else match readGroupName false rest with
      | .error fault => .error fault
      | .ok (name, rest) => .ok (c :: name, rest)

/-- What an opening parenthesis begins. -/
inductive Opener where
  /-- Flags for what follows in the enclosing group. -/
  | flags (changes : List FlagChange)
  | plain (flags : List FlagChange)
  | capture (name : Option Text)

/-- Reads a name behind its opening angle. -/
def readName (names : List Text) (text : Text) : Except Fault (Opener × Text) := do
  let (name, rest) ← readGroupName true text
  if name.isEmpty then throw .groupNameEmpty
  if name ∈ names then throw .groupNameDuplicate
  return (.capture (some name), rest)

/-- Reads what stands behind an opening parenthesis and a question mark. -/
def readQuestion (names : List Text) : Text → Except Fault (Opener × Text)
  | '=' :: _ => .error .lookAround
  | '!' :: _ => .error .lookAround
  | '<' :: '=' :: _ => .error .lookAround
  | '<' :: '!' :: _ => .error .lookAround
  | 'P' :: '<' :: rest => readName names rest
  | '<' :: rest => readName names rest
  | [] => .error .groupUnclosed
  | text => do
    match ← readFlags [] false false text with
    | (flags, ':' :: rest) => return (.plain flags, rest)
    | ([], _) => throw .repetitionMissing
    | (flags, rest) => return (.flags flags, rest.tail)

/-- Reads what stands behind an opening parenthesis. -/
def readOpener (verbose : Bool) (names : List Text) (text : Text) : Except Fault (Opener × Text) :=
  match skip verbose text with
  | '?' :: rest => readQuestion names rest
  | text => .ok (.capture none, text)

/-- Reads a decimal number and the white space around it. What follows it is known even if the
number is at fault. -/
def readCount (verbose : Bool) (text : Text) : Except Fault Nat × Text :=
  let (digits, rest) := takeSkipping verbose Char.isDigit (Text.trimStart text)
  let count : Except Fault Nat :=
    if digits.isEmpty then .error .countEmpty
    else match (Text.readDigits 0 digits).filter (· < 2 ^ (32 : Nat)) with
      | some n => .ok n
      | none => .error .decimalInvalid
  (count, Text.trimStart rest)

/-- Reads the numbers of a counted repetition behind its opening brace. -/
def readCounts (verbose : Bool) (text : Text) :
    Except Fault ((Nat × Option Nat) × Text) :=
  match skip verbose text with
  | [] => .error .countUnclosed
  | text =>
    let (least, text) := readCount verbose text
    match text with
    | [] => .error .countUnclosed
    | ',' :: rest =>
      match skip verbose rest with
      | [] => .error .countUnclosed
      | '\x7d' :: rest => do return ((← least, none), '\x7d' :: rest)
      | rest => do
        let least ← least
        let (most, rest) := readCount verbose rest
        return ((least, some (← most)), rest)
    | text => do
      let least ← least
      return ((least, some least), text)

/-- Reads a counted repetition behind its opening brace: the bounds, and whether it is greedy. -/
def readCounted (verbose : Bool) (text : Text) :
    Except Fault ((Nat × Option Nat × Bool) × Text) := do
  let ((least, most), text) ← readCounts verbose text
  match text with
  | '\x7d' :: rest =>
    let (greedy, rest) := match skip verbose rest with
      | '?' :: rest => (false, rest)
      | rest => (true, rest)
    if most.any (· < least) then throw .countOrder
    return ((least, most, greedy), rest)
  | _ => throw .countUnclosed

/-- Whether something can be repeated. -/
def Ast.isRepeatable : Ast → Bool
  | .empty => false
  | .flags _ => false
  | _ => true

/-- What has been read of the innermost open group: its earlier branches, and the parts of the
branch that is being read, both in reverse. -/
structure Level where
  branches : List Ast
  parts : List Ast

/-- The syntax of parts in reverse, one after another. -/
def sequenceOf : List Ast → Ast
  | [] => .empty
  | [part] => part
  | parts => .sequence parts.reverse

/-- The syntax of a level that is complete. -/
def Level.close (level : Level) : Ast :=
  match level.branches with
  | [] => sequenceOf level.parts
  | branches => .alternation (sequenceOf level.parts :: branches).reverse

def Level.push (level : Level) (part : Ast) : Level := { level with parts := part :: level.parts }

/-- A group that is open, with what surrounds it and the mode to go back to. -/
structure OpenGroup where
  kind : GroupKind
  outer : Level
  verbose : Bool

/-- Where the reading of a pattern stands. -/
structure Reading where
  level : Level
  groups : List OpenGroup
  verbose : Bool
  captures : Nat
  names : List Text
  rest : Text

namespace Reading

/-- Before the first character. -/
def start (text : Text) : Reading := ⟨⟨[], []⟩, [], false, 0, [], text⟩

/-- A reading with one part more, and with less left. -/
def push (reading : Reading) (part : Ast) (rest : Text) : Reading :=
  { reading with level := reading.level.push part, rest }

def enter (reading : Reading) (kind : GroupKind) (verbose : Bool) (rest : Text) : Reading :=
  { reading with
    level := ⟨[], []⟩
    groups := ⟨kind, reading.level, reading.verbose⟩ :: reading.groups
    verbose, rest }

/-- The verbose mode after changes of flags. -/
def verboseAfter (verbose : Bool) (changes : List FlagChange) : Bool :=
  ((changes.find? (·.1 == .verbose)).map (·.2)).getD verbose

/-- Reads a group, or flags, behind an opening parenthesis. -/
def openGroup (reading : Reading) (rest : Text) : Except Fault Reading := do
  let (opener, rest) ← readOpener reading.verbose reading.names rest
  match opener with
  | .flags changes =>
    let verbose := verboseAfter reading.verbose changes
    return { reading.push (.flags changes) rest with verbose }
  | .plain flags =>
    return reading.enter (.plain flags) (verboseAfter reading.verbose flags) rest
  | .capture name =>
    let index := reading.captures + 1
    let entered := reading.enter (.capture index name) reading.verbose rest
    return { entered with captures := index, names := reading.names ++ name.toList }

/-- Leaves the innermost group behind its closing parenthesis. -/
def closeGroup (reading : Reading) (rest : Text) : Except Fault Reading :=
  match reading.groups with
  | [] => .error .groupUnopened
  | group :: groups =>
    .ok { reading with
      level := group.outer.push (.group group.kind reading.level.close)
      groups, verbose := group.verbose, rest }

/-- Begins the next branch of an alternation. -/
def branch (reading : Reading) (rest : Text) : Reading :=
  let level := reading.level
  { reading with level := ⟨sequenceOf level.parts :: level.branches, []⟩, rest }

/-- The last part and what stands before it, if it can be repeated. -/
def takePart (reading : Reading) : Except Fault (Ast × List Ast) :=
  match reading.level.parts with
  | [] => .error .repetitionMissing
  | part :: parts => if part.isRepeatable then .ok (part, parts) else .error .repetitionMissing

/-- Repeats the last part behind a repetition sign of one character. -/
def repeatPart (reading : Reading) (least : Nat) (most : Option Nat) (rest : Text) :
    Except Fault Reading := do
  let (part, parts) ← reading.takePart
  let (greedy, rest) := match rest with
    | '?' :: rest => (false, rest)
    | _ => (true, rest)
  let parts := .repetition least most greedy part :: parts
  return { reading with level := { reading.level with parts }, rest }

/-- Repeats the last part behind the opening brace of a count. -/
def repeatCounted (reading : Reading) (rest : Text) : Except Fault Reading := do
  let (part, parts) ← reading.takePart
  let ((least, most, greedy), rest) ← readCounted reading.verbose rest
  let parts := .repetition least most greedy part :: parts
  return { reading with level := { reading.level with parts }, rest }

/-- A primitive as a part. -/
def ofPrimitive : Primitive → Ast
  | .literal l => .literal l
  | .assertion kind => .assertion kind
  | .letter kind negated => .letter kind negated
  | .property query negated => .property query negated

/-- Reads what begins with a character. -/
def step (reading : Reading) (c : Char) (rest : Text) : Except Fault Reading :=
  match c with
  | '(' => reading.openGroup rest
  | ')' => reading.closeGroup rest
  | '|' => .ok (reading.branch rest)
  | '[' => (readClass reading.verbose rest).map fun (set, rest) => reading.push set rest
  | '?' => reading.repeatPart 0 (some 1) rest
  | '*' => reading.repeatPart 0 none rest
  | '+' => reading.repeatPart 1 none rest
  | '\x7b' => reading.repeatCounted rest
  | '\\' =>
    (readEscape reading.verbose rest).map fun (primitive, rest) =>
      reading.push (ofPrimitive primitive) rest
  | '.' => .ok (reading.push .dot rest)
  | '^' => .ok (reading.push (.assertion .lineStart) rest)
  | '$' => .ok (reading.push (.assertion .lineEnd) rest)
  | c => .ok (reading.push (.literal ⟨c, false⟩) rest)

/-- Reads to the end. Each step takes at least one character, so `fuel` is the length of the
text. -/
def run : (fuel : Nat) → Reading → Except Fault Reading
  | 0, reading => .ok reading
  | fuel + 1, reading =>
    match skip reading.verbose reading.rest with
    | [] => .ok reading
    | c :: rest => (reading.step c rest).bind (run fuel)

end Reading

/-- The syntax of a text, with the names of its groups and how many there are, or the first fault
in it. -/
def Ast.ofText (text : Text) : Except Fault (Ast × Nat) := do
  let reading ← Reading.run (text.length + 1) (.start text)
  if reading.groups ≠ [] then throw .groupUnclosed
  let ast := reading.level.close
  if nestingLimit < ast.depth then throw .nestedTooDeep
  return (ast, reading.captures)

end LocaleLint.Pattern
