import LocaleLint.Text.Basic

/-!
# The syntax of patterns

What a regular expression says, before flags and Unicode give it a meaning.
-/

namespace LocaleLint.Pattern

/-- The flags that a pattern may switch on or off. -/
inductive Flag where
  | caseInsensitive
  | multiLine
  | dotMatchesNewLine
  | crlf
  | swapGreed
  | unicode
  | verbose
deriving Repr, DecidableEq

/-- A flag and whether it is switched on. -/
abbrev FlagChange := Flag × Bool

/-- A character of a pattern; `asByte` says that it is written as a byte, with two digits. -/
structure Literal where
  char : Char
  asByte : Bool
deriving Repr, DecidableEq

/-- The classes that one letter after a backslash stands for. -/
inductive LetterClass where
  | digit
  | space
  | word
deriving Repr, DecidableEq

/-- The classes of ASCII characters that have names. -/
inductive AsciiClass where
  | alnum
  | alpha
  | ascii
  | blank
  | cntrl
  | digit
  | graph
  | lower
  | print
  | punct
  | space
  | upper
  | word
  | xdigit
deriving Repr, DecidableEq

/-- A query for a class by properties of characters. -/
inductive PropertyQuery where
  | named (name : Text)
  | valued (property value : Text)
deriving Repr, DecidableEq

/-- The operations on two sets of characters. -/
inductive SetOperation where
  | intersection
  | difference
  | symmetricDifference
deriving Repr, DecidableEq

/-- What stands between square brackets. -/
inductive ClassSet where
  | literal (l : Literal)
  | range (first last : Literal)
  | ascii (kind : AsciiClass) (negated : Bool)
  | letter (kind : LetterClass) (negated : Bool)
  | property (query : PropertyQuery) (negated : Bool)
  | bracketed (negated : Bool) (set : ClassSet)
  | items (sets : List ClassSet)
  | operation (op : SetOperation) (a b : ClassSet)
deriving Repr

/-- The conditions on a place between two characters. -/
inductive Assertion where
  | lineStart
  | lineEnd
  | textStart
  | textEnd
  | wordBoundary
  | notWordBoundary
  | wordStart
  | wordEnd
  | wordStartHalf
  | wordEndHalf
deriving Repr, DecidableEq

inductive GroupKind where
  | capture (index : Nat) (name : Option Text)
  | plain (flags : List FlagChange)
deriving Repr, DecidableEq

/-- A pattern as it is written. -/
inductive Ast where
  | empty
  | flags (changes : List FlagChange)
  | literal (l : Literal)
  | dot
  | assertion (kind : Assertion)
  | letter (kind : LetterClass) (negated : Bool)
  | property (query : PropertyQuery) (negated : Bool)
  | bracketed (negated : Bool) (set : ClassSet)
  | repetition (least : Nat) (most : Option Nat) (greedy : Bool) (body : Ast)
  | group (kind : GroupKind) (body : Ast)
  | alternation (branches : List Ast)
  | sequence (parts : List Ast)
deriving Repr

mutual

/-- How deep brackets and operations are nested in a class. -/
def ClassSet.depth : ClassSet → Nat
  | .bracketed _ set => set.depth + 1
  | .items [] => 0
  | .items sets => ClassSet.depths sets + 1
  | .operation _ a b => max a.depth b.depth + 1
  | _ => 0

/-- The greatest depth of several classes. -/
def ClassSet.depths : List ClassSet → Nat
  | [] => 0
  | set :: rest => max set.depth (ClassSet.depths rest)

end

mutual

/-- How deep a pattern is nested. -/
def Ast.depth : Ast → Nat
  | .bracketed _ set => set.depth + 1
  | .repetition _ _ _ body => body.depth + 1
  | .group _ body => body.depth + 1
  | .alternation branches => Ast.depths branches + 1
  | .sequence parts => Ast.depths parts + 1
  | _ => 0

/-- The greatest depth of several patterns. -/
def Ast.depths : List Ast → Nat
  | [] => 0
  | ast :: rest => max ast.depth (Ast.depths rest)

end

end LocaleLint.Pattern
