import LocaleLint.Failure
import LocaleLint.Files.Braces

/-!
# Ignored paths

An entry that ignores paths is either a path, which ignores all that it leads to or contains, or a
wildcard pattern. Brace alternatives are expanded first.
-/

namespace LocaleLint

/-- One way to ignore paths. -/
inductive IgnoreEntry where
  | under (path : Path)
  | like (glob : Glob)
deriving Repr, DecidableEq

namespace IgnoreEntry

/-- The entry of a text without brace alternatives. -/
def ofText (text : Text) : Except Failure IgnoreEntry :=
  let path := (Path.ofText text).normalize
  if Glob.isPattern text then
    match Glob.ofText path.toText with
    | .ok glob => .ok (like glob)
    | .error e => .error (.globInvalid text e)
  else .ok (under path)

def covers (entry : IgnoreEntry) (path : Path) : Bool :=
  match entry with
  | under above => above.isPrefixOf path
  | like glob => glob.covers path.toText

/-- The entries of texts, or the failure of the first pattern that is invalid. -/
def ofTexts (texts : List Text) : Except Failure (List IgnoreEntry) :=
  (texts.flatMap Braces.expand).mapM ofText

end IgnoreEntry

end LocaleLint
