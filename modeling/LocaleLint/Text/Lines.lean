import LocaleLint.Text.Basic

/-!
# Lines and columns

A byte offset in a text stands on a line and in a column, both counted from one. Lines end after a
line feed, and columns count characters.
-/

namespace LocaleLint

/-- The byte offsets at which the lines of a text start. -/
structure LineIndex where
  starts : List Nat
deriving Repr, DecidableEq

namespace LineIndex

/-- The offsets just after each line feed of a text that begins at `offset`. -/
def startsAfter (offset : Nat) : Text → List Nat
  | [] => []
  | c :: rest =>
    let next := offset + c.utf8Size
    if c = '\n' then next :: startsAfter next rest else startsAfter next rest

/-- The line starts of a text. The first line starts at offset zero. -/
def ofText (content : Text) : LineIndex := ⟨0 :: startsAfter 0 content⟩

/-- The line of an offset: how many lines have started by then. -/
def line (index : LineIndex) (offset : Nat) : Nat := index.starts.countP (· ≤ offset)

/-- The line and the column of an offset. An offset inside a character or past the end is given
the first column. -/
def lineCol (index : LineIndex) (content : Text) (offset : Nat) : Nat × Nat :=
  let line := index.line offset
  let start := index.starts.getD (line - 1) 0
  (line, ((Text.slice start offset content).map List.length).getD 0 + 1)

/-- The text of a line without its line feed and without one carriage return in front of that. -/
def lineText (index : LineIndex) (content : Text) (line : Nat) : Option Text :=
  if line = 0 then none else do
    let start ← index.starts[line - 1]?
    let stop := (index.starts[line]?.map (· - 1)).getD content.utf8Length
    let text ← Text.slice start stop content
    return (Text.dropSuffix? ['\r'] text).getD text

end LineIndex

end LocaleLint
