import LocaleLint.Document
import LocaleLint.Reference.Extraction
import LocaleLint.Text.Lines

/-!
# Views

The keys that a view refers to, each with the place where it does.
-/

namespace LocaleLint

/-- A reference to a key: its line and column, and the text of the line. -/
structure Occurrence where
  key : Text
  line : Nat
  column : Nat
  sourceLine : Text
deriving Repr, DecidableEq

/-- A view and the references in it. -/
structure View where
  path : Text
  occurrences : List Occurrence
deriving Repr, DecidableEq

namespace View

/-- The place of a key that has been found in a content. -/
def locate (content : Text) (index : LineIndex) (found : FoundKey) : Occurrence :=
  let (line, column) := index.lineCol content found.offset
  ⟨found.key, line, column, (index.lineText content line).getD []⟩

/-- The view of a document, with the references that a pattern finds. -/
def ofDocument (pattern : KeyPattern) (document : Document) : View :=
  let index := LineIndex.ofText document.content
  ⟨document.path, (pattern.extract document.content).map (locate document.content index)⟩

/-- The keys that a view refers to, each once, in order. -/
def keyNames (view : View) : List Text := (view.occurrences.map (·.key)).eraseDups

def first? (view : View) (key : Text) : Option Occurrence := view.occurrences.find? (·.key = key)

/-- Whether a view refers to a key. -/
def refersTo (view : View) (key : Text) : Bool := view.occurrences.any (·.key = key)

end View

end LocaleLint
