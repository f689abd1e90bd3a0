import LocaleLint.Text.Lines

/-!
# Lines of keys

The line on which a text declares a key: the line of the key as one quoted name, or else of the last
of its parts that can be found one behind the other. A text is searched by byte offsets, and it is
cut at each offset at which the search starts or looks for a colon.
-/

namespace LocaleLint.NameLine

/-- Whether a text goes on with a colon, maybe behind white space. -/
def colonFollows (text : Text) : Bool := (Text.trimStart text).head? = some ':'

def quoted (name : Text) : Text := '"' :: name ++ ['"']

/-- Why a search breaks off: a text cannot be cut at a byte offset, because a character lies across
it or the text ends in front of it. -/
structure BadCut where
  offset : Nat
deriving Repr, DecidableEq

/-- Searches a text from a byte offset on for a pattern with a colon behind it, and gives the offset
behind the pattern. If no colon follows, the search goes on one byte behind the start of the
pattern. -/
def seek (pattern text : Text) (offset : Nat) : Except BadCut (Option Nat) :=
  match _cut : Text.dropBytes? offset text with
  | none => .error ⟨offset⟩
  | some rest =>
    match Text.offsetOf? pattern rest with
    | none => .ok none
    | some skipped =>
      let stop := offset + skipped + Text.utf8Length pattern
      match Text.dropBytes? stop text with
      | none => .error ⟨stop⟩
      | some behind =>
        if colonFollows behind then .ok (some stop)
        else seek pattern text (offset + skipped + 1)
termination_by Text.utf8Length text + 1 - offset
decreasing_by
  have := Text.le_of_dropBytes? _cut
  omega

/-- The byte offset behind the first place, from an offset on, where a member has a name. A search
that breaks off finds nothing. -/
def find? (content : Text) (start : Nat) (name : Text) : Option Nat := do
  let rest ← Text.dropBytes? start content
  let found ← (seek (quoted name) rest 0).toOption.join
  return start + found

/-- The offset behind the last of several names that are found one behind the other. -/
def follow (content : Text) : List Text → (start : Nat) → Nat
  | [], start => start
  | name :: names, start =>
    match find? content start name with
    | none => start
    | some stop => follow content names stop

/-- The offset behind the name or the parts of a key, or zero. -/
def offsetOf (content key : Text) : Nat :=
  match find? content 0 key with
  | some stop => stop
  | none => follow content (Text.splitOn '.' key) 0

/-- The line on which a content declares a key; it is the first line if no part of it is found. -/
def lineOf (content : Text) (index : LineIndex) (key : Text) : Nat :=
  index.line (offsetOf content key)

end LocaleLint.NameLine
