import LocaleLint.Pattern.Properties
import LocaleLint.Pattern.Reader
import LocaleLint.Pattern.Regex

/-!
# The meaning of patterns

From what a pattern says to the regular expression that it means. Flags change on the way: a change
lasts to the end of the group that it stands in.
-/

namespace LocaleLint.Pattern

open Unicode

/-- The flags in force at a place of a pattern. -/
structure Flags where
  caseInsensitive : Bool := false
  multiLine : Bool := false
  dotMatchesNewLine : Bool := false
  crlf : Bool := false
  swapGreed : Bool := false
  unicode : Bool := true
deriving Repr, DecidableEq

namespace Flags

/-- The flags after one of them is switched. -/
def set (flags : Flags) (change : FlagChange) : Flags :=
  match change with
  | (.caseInsensitive, on) => { flags with caseInsensitive := on }
  | (.multiLine, on) => { flags with multiLine := on }
  | (.dotMatchesNewLine, on) => { flags with dotMatchesNewLine := on }
  | (.crlf, on) => { flags with crlf := on }
  | (.swapGreed, on) => { flags with swapGreed := on }
  | (.unicode, on) => { flags with unicode := on }
  | (.verbose, _) => flags

/-- The flags after several changes. -/
def setAll (flags : Flags) (changes : List FlagChange) : Flags := changes.foldl set flags

/-- A class with the variants of its characters, if case does not count. Without Unicode, only
ASCII letters have variants. -/
def foldCase (flags : Flags) (cls : CharClass) : CharClass :=
  if !flags.caseInsensitive then cls
  else if flags.unicode then .caseFolded cls
  else
    let ascii := CharClass.range 0 127
    cls.union (ascii.intersection (.caseFolded (ascii.intersection cls)))

end Flags

def AsciiClass.toClass : AsciiClass → CharClass
  | .alnum => .ofRanges [(48, 57), (65, 90), (97, 122)]
  | .alpha => .ofRanges [(65, 90), (97, 122)]
  | .ascii => .range 0 127
  | .blank => .ofRanges [(9, 9), (32, 32)]
  | .cntrl => .ofRanges [(0, 31), (127, 127)]
  | .digit => .range 48 57
  | .graph => .range 33 126
  | .lower => .range 97 122
  | .print => .range 32 126
  | .punct => .ofRanges [(33, 47), (58, 64), (91, 96), (123, 126)]
  | .space => .ofRanges [(9, 13), (32, 32)]
  | .upper => .range 65 90
  | .word => .ofRanges [(48, 57), (65, 90), (95, 95), (97, 122)]
  | .xdigit => .ofRanges [(48, 57), (65, 70), (97, 102)]

def LetterClass.toClass (unicode : Bool) : LetterClass → CharClass
  | .digit => if unicode then GeneralCategory.decimalNumber else AsciiClass.digit.toClass
  | .space => if unicode then Property.whiteSpace else AsciiClass.space.toClass
  | .word => if unicode then Property.word else AsciiClass.word.toClass

/-- The complement of a class, if it is negated. -/
def negateIf (negated : Bool) (cls : CharClass) : CharClass :=
  if negated then cls.complement else cls

/-- A class that may be used where Unicode is off: one that holds no byte beyond ASCII. -/
def asciiOnly (cls : CharClass) : Except Fault CharClass :=
  if (List.range 128).any fun n => cls.contains (n + 128) then .error .invalidUtf8 else .ok cls

/-- The number of a character. Where Unicode is off, a byte beyond ASCII matches no text, and in
classes no other character beyond ASCII is allowed. -/
def Literal.number (l : Literal) (flags : Flags) (inClass : Bool) : Except Fault Nat :=
  if flags.unicode || l.char.toNat < 128 then .ok l.char.toNat
  else if l.asByte then .error .invalidUtf8
  else if inClass then .error .unicodeNotAllowed
  else .ok l.char.toNat

/-- The class that a property query stands for under some flags. -/
def PropertyQuery.toClass (query : PropertyQuery) (negated : Bool) (flags : Flags) :
    Except Fault CharClass := do
  if !flags.unicode then throw .unicodeNotAllowed
  return negateIf negated (flags.foldCase (← query.find))

/-- The class that a letter stands for under some flags. -/
def LetterClass.toClassWith (kind : LetterClass) (negated : Bool) (flags : Flags) :
    Except Fault CharClass :=
  let cls := negateIf negated (kind.toClass flags.unicode)
  if flags.unicode then .ok cls else asciiOnly cls

def bracketClass (negated : Bool) (cls : CharClass) (flags : Flags) : Except Fault CharClass :=
  let cls := negateIf negated (flags.foldCase cls)
  if flags.unicode then .ok cls else asciiOnly cls

/-- The result of an operation on two classes. -/
def SetOperation.apply : SetOperation → CharClass → CharClass → CharClass
  | .intersection, a, b => .intersection a b
  | .difference, a, b => .difference a b
  | .symmetricDifference, a, b => .symmetricDifference a b

mutual

/-- The characters that a class allows under some flags. -/
def ClassSet.toClass (flags : Flags) : ClassSet → Except Fault CharClass
  | .literal l => do
    let n ← l.number flags true
    return .range n n
  | .range first last => do
    let first ← first.number flags true
    let last ← last.number flags true
    return .range first last
  | .ascii kind negated => bracketClass negated kind.toClass flags
  | .letter kind negated => kind.toClassWith negated flags
  | .property query negated => query.toClass negated flags
  | .bracketed negated set => do bracketClass negated (← set.toClass flags) flags
  | .items sets => do return .unions (← ClassSet.toClasses flags sets)
  | .operation op a b => do
    let a ← a.toClass flags
    let b ← b.toClass flags
    return op.apply (flags.foldCase a) (flags.foldCase b)

/-- The characters that each of several classes allows. -/
def ClassSet.toClasses (flags : Flags) : List ClassSet → Except Fault (List CharClass)
  | [] => .ok []
  | set :: rest => do
    let cls ← set.toClass flags
    return cls :: (← ClassSet.toClasses flags rest)

end

/-- The class of a dot under some flags. -/
def dotClass (flags : Flags) : CharClass :=
  if flags.dotMatchesNewLine then .all
  else if flags.crlf then (CharClass.ofRanges [(10, 10), (13, 13)]).complement
  else (CharClass.range 10 10).complement

/-- The condition of an assertion under some flags. -/
def Assertion.toLook (flags : Flags) (kind : Assertion) : Look :=
  let word := LetterClass.word.toClass flags.unicode
  match kind with
  | .lineStart =>
    if !flags.multiLine then .textStart else if flags.crlf then .crlfLineStart else .lineStart
  | .lineEnd => if !flags.multiLine then .textEnd else if flags.crlf then .crlfLineEnd else .lineEnd
  | .textStart => .textStart
  | .textEnd => .textEnd
  | .wordBoundary => .wordBoundary word
  | .notWordBoundary => .notWordBoundary word
  | .wordStart => .wordStart word
  | .wordEnd => .wordEnd word
  | .wordStartHalf => .wordStartHalf word
  | .wordEndHalf => .wordEndHalf word

mutual

/-- The regular expression that a pattern means under some flags, and the flags behind it. -/
def Ast.toRegex (flags : Flags) : Ast → Except Fault (Regex × Flags)
  | .empty => .ok (.empty, flags)
  | .flags changes => .ok (.empty, flags.setAll changes)
  | .literal l => do
    let n ← l.number flags false
    return (.one (flags.foldCase (.range n n)), flags)
  | .dot =>
    if flags.unicode then .ok (.one (dotClass flags), flags) else .error .invalidUtf8
  | .assertion kind => .ok (.look (kind.toLook flags), flags)
  | .letter kind negated => do return (.one (← kind.toClassWith negated flags), flags)
  | .property query negated => do return (.one (← query.toClass negated flags), flags)
  | .bracketed negated set => do
    return (.one (← bracketClass negated (← set.toClass flags) flags), flags)
  | .repetition least most greedy body => do
    let (body, flags) ← body.toRegex flags
    return (.rounds least most (greedy != flags.swapGreed) body, flags)
  | .group (.capture index _) body => do
    let (body, _) ← body.toRegex flags
    return (.capture index body, flags)
  | .group (.plain changes) body => do
    let (body, _) ← body.toRegex (flags.setAll changes)
    return (body, flags)
  | .alternation branches => do
    let (branches, flags) ← Ast.toRegexes flags branches
    return (.alts branches, flags)
  | .sequence parts => do
    let (parts, flags) ← Ast.toRegexes flags parts
    return (.seqs parts, flags)

/-- The regular expressions that patterns mean one after another, and the flags behind them. -/
def Ast.toRegexes (flags : Flags) : List Ast → Except Fault (List Regex × Flags)
  | [] => .ok ([], flags)
  | ast :: rest => do
    let (first, flags) ← ast.toRegex flags
    let (rest, flags) ← Ast.toRegexes flags rest
    return (first :: rest, flags)

end

mutual

/-- The names of the groups of a pattern, with their numbers. -/
def Ast.groupNames : Ast → List (Text × Nat)
  | .repetition _ _ _ body => body.groupNames
  | .group (.capture index (some name)) body => (name, index) :: body.groupNames
  | .group _ body => body.groupNames
  | .alternation branches => Ast.groupNamesOf branches
  | .sequence parts => Ast.groupNamesOf parts
  | _ => []

/-- The names of the groups of several patterns. -/
def Ast.groupNamesOf : List Ast → List (Text × Nat)
  | [] => []
  | ast :: rest => ast.groupNames ++ Ast.groupNamesOf rest

end

end LocaleLint.Pattern
