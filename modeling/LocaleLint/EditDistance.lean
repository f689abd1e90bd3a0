import LocaleLint.Text.Basic
import LocaleLint.Number.Double

/-!
# Edit distance

How far two keys are apart, as the number of characters to insert, delete or replace, and how
similar that makes them. Similarity is the exact quotient `1 - distance / length of the longer key`;
`score` is that quotient in double arithmetic, which is what a threshold is compared with.
-/

namespace LocaleLint.EditDistance

/-- The rest of a row of the distance table: the entries that follow `left` for one character of
the first text, from the row above. -/
def nextEntries (c : Char) (left : Nat) : Text → List Nat → List Nat
  | d :: ds, diagonal :: above :: row =>
    let entry := min (diagonal + if c = d then 0 else 1) (min (above + 1) (left + 1))
    entry :: nextEntries c entry ds (above :: row)
  | _, _ => []

/-- The row of the distance table after one more character of the first text. -/
def nextRow (t : Text) (row : List Nat) (c : Char) : List Nat :=
  let left := row.headD 0 + 1
  left :: nextEntries c left t row

/-- The first row of the distance table: to reach a beginning of the text, insert all of it. -/
def firstRow (t : Text) : List Nat := List.range (t.length + 1)

/-- The least number of insertions, deletions and replacements of one character that turn the
first text into the second. -/
def distance (s t : Text) : Nat := (s.foldl (nextRow t) (firstRow t)).getLastD 0

def longer (s t : Text) : Nat := max s.length t.length

/-- The similarity of two texts in double arithmetic: one quotient, then one difference. -/
def score (s t : Text) : Double :=
  if longer s t = 0 then .one
  else (Double.nearest false (distance s t) (longer s t)).complement

end LocaleLint.EditDistance
