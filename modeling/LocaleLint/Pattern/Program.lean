import LocaleLint.Pattern.Regex

/-!
# Programs

A regular expression as a list of steps. The steps of an expression lie next to each other, begin
with its entry, and leave only to the address that is given for what follows it.
-/

namespace LocaleLint.Pattern

open Unicode

/-- A step of a program, with the addresses it goes on to. -/
inductive Step where
  /-- Takes a character of a class. -/
  | one (cls : CharClass) (next : Nat)
  /-- Goes on where a condition holds. -/
  | look (condition : Look) (next : Nat)
  /-- Notes the position. -/
  | mark (slot : Nat) (next : Nat)
  | jump (next : Nat)
  /-- Goes on both ways, and prefers the first. -/
  | fork (first second : Nat)
  | accept
deriving Repr

namespace Regex

/-- How many steps a regular expression has. -/
def size : Regex → Nat
  | empty => 1
  | one _ => 1
  | look _ => 1
  | capture _ body => body.size + 2
  | seq first second => first.size + second.size
  | alt first second => first.size + second.size + 1
  | optional _ body => body.size + 1
  | plus _ body => body.size + 1

/-- A fork that prefers another round if it is greedy, and going on if it is not. -/
def forkTo (greedy : Bool) (again next : Nat) : Step :=
  if greedy then .fork again next else .fork next again

/-- The steps of a regular expression from the address `base` on, which go on to `next`. -/
def code : Regex → (base next : Nat) → List Step
  | empty, _, next => [.jump next]
  | one cls, _, next => [.one cls next]
  | look condition, _, next => [.look condition next]
  | capture index body, base, next =>
    .mark (2 * index) (base + 1) ::
      (body.code (base + 1) (base + 1 + body.size) ++ [.mark (2 * index + 1) next])
  | seq first second, base, next =>
    first.code base (base + first.size) ++ second.code (base + first.size) next
  | alt first second, base, next =>
    .fork (base + 1) (base + 1 + first.size) ::
      (first.code (base + 1) next ++ second.code (base + 1 + first.size) next)
  | optional greedy body, base, next =>
    forkTo greedy (base + 1) next :: body.code (base + 1) next
  | plus greedy body, base, next =>
    body.code base (base + body.size) ++ [forkTo greedy base next]

/-- The steps have the addresses that `size` leaves for them. -/
@[simp] theorem length_code (r : Regex) (base next : Nat) : (r.code base next).length = r.size := by
  induction r generalizing base next with
  | empty => rfl
  | one _ => rfl
  | look _ => rfl
  | capture _ _ ih => simp [code, size, ih]
  | seq _ _ ih₁ ih₂ => simp [code, size, ih₁, ih₂]
  | alt _ _ ih₁ ih₂ => simp [code, size, ih₁, ih₂]
  | optional _ _ ih => simp [code, size, ih]
  | plus _ _ ih => simp [code, size, ih]

end Regex

/-- A program: steps with their addresses; it starts at address zero. -/
abbrev Program := Array Step

/-- The program of a regular expression. -/
def Regex.program (r : Regex) : Program := (r.code 0 r.size ++ [Step.accept]).toArray

end LocaleLint.Pattern
