import LocaleLint.Failure
import LocaleLint.Pattern.Search
import LocaleLint.Reference.Fragment

/-!
# Extraction of keys

The keys that a content refers to, found by one pattern that tries all forms of references at each
place. Main functions: `KeyPattern.ofFragments` and `KeyPattern.extract`.
-/

namespace LocaleLint

/-- A key in a content, with the byte offset where it starts. -/
structure FoundKey where
  key : Text
  offset : Nat
deriving Repr, DecidableEq

/-- The pattern for all forms of references together; without forms there is none. -/
structure KeyPattern where
  pattern : Option Pattern
  fragmentCount : Nat

namespace KeyPattern

/-- The flags under which references are looked for: lines have ends of their own. -/
def flags : Pattern.Flags := { multiLine := true }

/-- Compiles the pattern of a form, or names it. -/
def compileAs (label source : Text) : Except Failure Pattern :=
  (Pattern.compile flags source).mapError fun fault => .patternInvalid ⟨label, fault⟩

/-- One pattern for several: each is put into a group, and the first ones are preferred. -/
def combine (sources : List Text) : Text :=
  Text.joinWith ['|'] (sources.map fun source => "(?:".toList ++ source ++ [')'])

/-- The pattern for several forms of references. Each form has to compile on its own, and then all
of them together. -/
def ofFragments (fragments : List Fragment) : Except Failure KeyPattern := do
  for fragment in fragments do
    let _ ← compileAs fragment.label fragment.source
  if fragments.isEmpty then return ⟨none, 0⟩
  let combined := combine (fragments.map Fragment.source)
  let pattern ← compileAs combined combined
  return ⟨some pattern, fragments.length⟩

/-- The characters that keys are made of. A declared key does not count where one of them touches
it. -/
def isKeyChar (c : Char) : Bool :=
  Unicode.Property.alphanumeric.has c || c == '_' || c == '.' || c == '-'

def keyAt (content : Text) (range : Nat × Nat) : FoundKey :=
  ⟨(content.drop range.1).take (range.2 - range.1), Text.utf8Length (content.take range.1)⟩

/-- Whether key characters touch a range of positions of a content. -/
def isTouched (content : Text) (range : Nat × Nat) : Bool :=
  (range.1 != 0 && content[range.1 - 1]?.any isKeyChar) || content[range.2]?.any isKeyChar

/-- The first of several ranges that is not empty. -/
def firstFilled? (ranges : List (Option (Nat × Nat))) : Option (Nat × Nat) :=
  (ranges.filterMap id).find? fun range => range.1 != range.2

/-- The key of a match: a declared key unless key characters touch it, otherwise the first group
that is not empty, otherwise the whole match unless it is empty. -/
def keyOf? (pattern : Pattern) (content : Text) (m : Pattern.Match) : Option FoundKey :=
  match pattern.namedGroup? Fragment.declaredGroup m with
  | some range => if isTouched content range then none else some (keyAt content range)
  | none =>
    let groups := (List.range pattern.groupCount).map fun i => m.group? (i + 1)
    (firstFilled? (groups ++ [some (m.start, m.stop)])).map (keyAt content)

/-- The keys that a content refers to, in order; repeated keys are kept. -/
def extract (keyPattern : KeyPattern) (content : Text) : List FoundKey :=
  match keyPattern.pattern with
  | none => []
  | some pattern => (pattern.matchesIn content).filterMap (keyOf? pattern content)

end KeyPattern

end LocaleLint
