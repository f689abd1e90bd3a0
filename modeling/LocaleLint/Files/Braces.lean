import LocaleLint.Text.Basic

/-!
# Brace alternatives

A pattern such as `a/{b,c}.ts` stands for the patterns `a/b.ts` and `a/c.ts`. Alternatives nest, and
a brace that is never closed is an ordinary character.
-/

namespace LocaleLint.Braces

/-- What follows an opening brace, cut at the commas and the closing brace that belong to it:
the alternatives and the rest. `depth` counts the inner braces that are open. -/
def alternatives : (depth : Nat) → Text → Option (List Text × Text)
  | _, [] => none
  | depth, c :: rest =>
    if depth = 0 ∧ c = '\x7d' then some ([[]], rest)
    else if depth = 0 ∧ c = ',' then
      (alternatives 0 rest).map fun (items, after) => ([] :: items, after)
    else
      let depth := if c = '\x7b' then depth + 1 else if c = '\x7d' then depth - 1 else depth
      (alternatives depth rest).map fun (items, after) =>
        ((c :: items.headD []) :: items.tail, after)

/-- Expands the first `count` opening braces of a pattern, and those of what they expand to. -/
def expandFirst : (count : Nat) → Text → List Text
  | 0, pattern => [pattern]
  | count + 1, pattern =>
    match pattern.span (· ≠ '\x7b') with
    | (_, []) => [pattern]
    | (before, _ :: inside) =>
      match alternatives 0 inside with
      | none => [pattern]
      | some (items, after) => items.flatMap fun item => expandFirst count (before ++ item ++ after)

/-- The patterns that a pattern with brace alternatives stands for, in order. Each expansion leaves
fewer opening braces, so their number bounds the depth. -/
def expand (pattern : Text) : List Text := expandFirst (pattern.count '\x7b') pattern

end LocaleLint.Braces
