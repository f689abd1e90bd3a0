import LocaleLint.Text.Basic

/-!
# Paths

A path is a sequence of steps. Its text is cut at slashes; empty parts mean nothing, and a single
dot means nothing unless the path starts with it.
-/

namespace LocaleLint

inductive PathStep where
  | root
  | here
  | up
  | name (name : Text)
deriving Repr, DecidableEq

/-- A path is its steps. -/
abbrev Path := List PathStep

namespace PathStep

def text : PathStep → Text
  | root => ['/']
  | here => ['.']
  | up => ['.', '.']
  | name n => n

/-- The steps that a part between two slashes stands for. -/
def ofPart (part : Text) : List PathStep :=
  if part = [] ∨ part = ['.'] then [] else if part = ['.', '.'] then [up] else [name part]

/-- The rank of a kind of step: the root is before the dots, and the dots are before the names. -/
def rank : PathStep → Nat
  | root => 0
  | here => 1
  | up => 2
  | name _ => 3

/-- The order of steps: by rank, and by the text of names. -/
def le : PathStep → PathStep → Bool
  | name s, name t => Text.le s t
  | a, b => a.rank ≤ b.rank

end PathStep

namespace Path

/-- The steps of a path that is written as a text. -/
def ofText (text : Text) : Path :=
  let steps := (Text.splitOn '/' text).flatMap PathStep.ofPart
  match text with
  | '/' :: _ => .root :: steps
  | ['.'] => .here :: steps
  | '.' :: '/' :: _ => .here :: steps
  | _ => steps

def toText : Path → Text
  | [] => []
  | .root :: rest => '/' :: Text.joinWith ['/'] (rest.map PathStep.text)
  | steps => Text.joinWith ['/'] (steps.map PathStep.text)

/-- The path of a name in the directory that a path leads to. -/
def join (path : Path) (name : Text) : Path := path ++ [.name name]

/-- A path without its last step. Nothing is above the root, or above a path without steps. -/
def parent? (path : Path) : Option Path :=
  match path.getLast? with
  | none | some .root => none
  | some _ => some path.dropLast

theorem length_lt_of_parent? {path parent : Path} (above : path.parent? = some parent) :
    parent.length < path.length := by
  cases path with
  | nil => cases above
  | cons step steps =>
    unfold parent? at above
    split at above
    · cases above
    · cases above
    · cases above
      simp

/-- A path without the single dot that it may start with. -/
def normalize (path : Path) : Path := path.filter (· ≠ .here)

/-- The name of the file that a path leads to, if its last step is a name. -/
def fileName? (path : Path) : Option Text :=
  match path.getLast? with
  | some (.name n) => some n
  | _ => none

/-- A file name cut before its last dot, if it has one that is not its first character. -/
def splitName (name : Text) : Text × Option Text :=
  let afterDot := (name.reverse.takeWhile (· ≠ '.')).reverse
  match (name.reverse.dropWhile (· ≠ '.')).tail.reverse with
  | [] => (name, none)
  | stem => (stem, some afterDot)

/-- The file name without its extension. -/
def stem? (path : Path) : Option Text := path.fileName?.map (splitName · |>.1)

def extension? (path : Path) : Option Text := path.fileName?.bind (splitName · |>.2)

/-- The order of paths, step by step; a path is before its continuations. -/
def le : Path → Path → Bool
  | [], _ => true
  | _ :: _, [] => false
  | a :: s, b :: t => if a = b then le s t else PathStep.le a b

end Path

end LocaleLint
