import LocaleLint.Text.Basic
import LocaleLint.Unicode.CaseFolding

/-!
# Classes of characters

A class is a combination of ranges of code points by the operations on sets. Ranges beyond ASCII
come in long lists, which are looked at for characters beyond ASCII only.
-/

namespace LocaleLint.Unicode

/-- A class of characters. -/
inductive CharClass where
  /-- No character. -/
  | nothing
  /-- The code points from the first to the last. -/
  | range (first last : Nat)
  /-- The code points beyond ASCII that lie in one of the ranges, which are in increasing order. -/
  | beyondAscii (ranges : List (Nat × Nat))
  | union (a b : CharClass)
  | intersection (a b : CharClass)
  | difference (a b : CharClass)
  | symmetricDifference (a b : CharClass)
  | complement (a : CharClass)
  /-- The characters of a class and their variants in case. -/
  | caseFolded (a : CharClass)
deriving Repr

namespace CharClass

/-- Whether a code point lies in one of several ranges in increasing order. -/
def inRanges (c : Nat) : List (Nat × Nat) → Bool
  | [] => false
  | (first, last) :: rest => if c < first then false else c ≤ last || inRanges c rest

/-- Whether a code point is in a class. -/
def contains : CharClass → Nat → Bool
  | nothing, _ => false
  | range first last, c => first ≤ c && c ≤ last
  | beyondAscii ranges, c => 128 ≤ c && inRanges c ranges
  | union a b, c => contains a c || contains b c
  | intersection a b, c => contains a c && contains b c
  | difference a b, c => contains a c && !contains b c
  | symmetricDifference a b, c => contains a c != contains b c
  | complement a, c => !contains a c
  | caseFolded a, c => (CaseFolding.variants c).any fun v => contains a v

/-- Whether a character is in a class. -/
def has (a : CharClass) (c : Char) : Bool := a.contains c.toNat

/-- Every character. -/
def all : CharClass := nothing.complement

/-- One character. -/
def only (c : Char) : CharClass := .range c.toNat c.toNat

/-- The union of several classes. -/
def unions : List CharClass → CharClass
  | [] => .nothing
  | [a] => a
  | a :: rest => .union a (unions rest)

/-- The union of several ranges. -/
def ofRanges (ranges : List (Nat × Nat)) : CharClass :=
  unions (ranges.map fun (first, last) => .range first last)

/-- Ranges written as numbers in turn: the gap since the last range, then the length. -/
def rangesFrom (start : Nat) : List Nat → List (Nat × Nat)
  | gap :: length :: rest =>
    (start + gap, start + gap + length - 1) :: rangesFrom (start + gap + length) rest
  | _ => []

/-- Ranges beyond ASCII, written as gaps and lengths in turn with spaces between them. -/
def ofRuns (runs : String) : CharClass :=
  .beyondAscii (rangesFrom 0 ((Text.splitOn ' ' runs.toList).filterMap (Text.readDigits 0)))

end CharClass

end LocaleLint.Unicode
