import LocaleLint.Unicode.Property

/-!
# Regular expressions

What a pattern means once its flags are known: characters of a class, conditions on places, marked
groups, and choices in an order of preference.
-/

namespace LocaleLint.Pattern

open Unicode

/-- A condition on a place between two characters. -/
inductive Look where
  | textStart
  | textEnd
  | lineStart
  | lineEnd
  | crlfLineStart
  | crlfLineEnd
  | wordBoundary (word : CharClass)
  | notWordBoundary (word : CharClass)
  | wordStart (word : CharClass)
  | wordEnd (word : CharClass)
  | wordStartHalf (word : CharClass)
  | wordEndHalf (word : CharClass)
deriving Repr

/-- A regular expression. Of two ways to match, those of the first alternative come first, and
greedy repetitions prefer one more round. -/
inductive Regex where
  | empty
  | one (cls : CharClass)
  | look (condition : Look)
  /-- A group with a number; the marks around it have twice that number and the next. -/
  | capture (index : Nat) (body : Regex)
  | seq (first second : Regex)
  | alt (first second : Regex)
  | optional (greedy : Bool) (body : Regex)
  /-- One round or more. -/
  | plus (greedy : Bool) (body : Regex)
deriving Repr

namespace Regex

/-- Regular expressions one after another. -/
def seqs : List Regex → Regex
  | [] => .empty
  | [r] => r
  | r :: rest => .seq r (seqs rest)

/-- A choice between regular expressions, the first ones preferred. -/
def alts : List Regex → Regex
  | [] => .empty
  | [r] => r
  | r :: rest => .alt r (alts rest)

/-- The same regular expression a number of times. -/
def times (r : Regex) (count : Nat) : Regex := seqs (List.replicate count r)

/-- Up to a number of rounds, each of which is reached only through the one before. -/
def upTo (greedy : Bool) (r : Regex) : Nat → Regex
  | 0 => .empty
  | 1 => .optional greedy r
  | count + 1 => .optional greedy (.seq r (upTo greedy r count))

/-- A number of rounds between two bounds, or at least a number of rounds. -/
def rounds (least : Nat) (most : Option Nat) (greedy : Bool) (r : Regex) : Regex :=
  match least, most with
  | 0, none => .optional greedy (.plus greedy r)
  | 1, none => .plus greedy r
  | least + 1, none => .seq (times r least) (.plus greedy r)
  | least, some most =>
    if most ≤ least then times r least
    else if least = 0 then upTo greedy r most
    else .seq (times r least) (upTo greedy r (most - least))

/-- The numbers of the groups of a regular expression. -/
def groups : Regex → List Nat
  | empty => []
  | one _ => []
  | look _ => []
  | capture index body => index :: groups body
  | seq first second => groups first ++ groups second
  | alt first second => groups first ++ groups second
  | optional _ body => groups body
  | plus _ body => groups body

end Regex

/-- A place in a text: how many characters are before it, the last of them, and what follows. -/
structure Place where
  position : Nat
  before : Option Char
  rest : Text
deriving Repr, DecidableEq

namespace Place

/-- The place before the first character. -/
def start (text : Text) : Place := ⟨0, none, text⟩

/-- The place a number of characters further on. -/
def advance : Nat → Place → Place
  | 0, place => place
  | count + 1, place =>
    match place.rest with
    | [] => place
    | c :: rest => advance count ⟨place.position + 1, some c, rest⟩

def isAfter (place : Place) (cls : CharClass) : Bool := place.before.any cls.has

def isBefore (place : Place) (cls : CharClass) : Bool := place.rest.head?.any cls.has

/-- Whether a condition holds at a place. -/
def satisfies (place : Place) : Look → Bool
  | .textStart => place.before == none
  | .textEnd => place.rest.isEmpty
  | .lineStart => place.before == none || place.before == some '\n'
  | .lineEnd => place.rest.isEmpty || place.rest.head? == some '\n'
  | .crlfLineStart =>
    place.before == none || place.before == some '\n' ||
      (place.before == some '\r' && place.rest.head? != some '\n')
  | .crlfLineEnd =>
    place.rest.isEmpty || place.rest.head? == some '\r' ||
      (place.rest.head? == some '\n' && place.before != some '\r')
  | .wordBoundary word => place.isAfter word != place.isBefore word
  | .notWordBoundary word => place.isAfter word == place.isBefore word
  | .wordStart word => !place.isAfter word && place.isBefore word
  | .wordEnd word => place.isAfter word && !place.isBefore word
  | .wordStartHalf word => !place.isAfter word
  | .wordEndHalf word => !place.isBefore word

end Place

end LocaleLint.Pattern
