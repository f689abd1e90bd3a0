import Mathlib
import LocaleLint.Proofs.Pattern.Relocation

/-!
# Literal texts

A literal text as a regular expression: one character after another. It matches where the text that
follows begins with it.
-/

namespace LocaleLint.Pattern

open Unicode (CharClass)

theorem has_only (c d : Char) : (CharClass.only c).has d = true ↔ c = d := by
  rw [CharClass.only, CharClass.has, CharClass.contains, Bool.and_eq_true, decide_eq_true_eq,
    decide_eq_true_eq, ← Nat.le_antisymm_iff]
  exact Char.toNat_inj

namespace Regex

/-- A text as a regular expression. -/
def literal (text : Text) : Regex := seqs (text.map fun c => .one (.only c))

theorem size_literal {text : Text} (some : text ≠ []) : (literal text).size = text.length := by
  induction text with
  | nil => exact absurd rfl some
  | cons c rest ih =>
    cases rest with
    | nil => rfl
    | cons d rest =>
      have behind := ih (List.cons_ne_nil _ _)
      change 1 + (literal (d :: rest)).size = _
      rw [behind, List.length_cons (a := c), Nat.add_comm]

private theorem code_literal {text : Text} (some : text ≠ []) (base x : Nat) :
    ((literal text).code base (base + text.length))[x]? =
      text[x]?.map fun c => .one (.only c) (base + x + 1) := by
  induction text generalizing base x with
  | nil => exact absurd rfl some
  | cons c rest ih =>
    cases rest with
    | nil =>
      cases x with
      | zero => rfl
      | succ x => rfl
    | cons d rest =>
      have code : (literal (c :: d :: rest)).code base (base + (c :: d :: rest).length) =
          .one (.only c) (base + 1) ::
            (literal (d :: rest)).code (base + 1) (base + 1 + (d :: rest).length) := by
        rw [show base + (c :: d :: rest).length = base + 1 + (d :: rest).length by
          simp only [List.length_cons]; omega]
        rfl
      rw [code]
      cases x with
      | zero => rfl
      | succ x =>
        rw [List.getElem?_cons_succ, ih (List.cons_ne_nil _ _), List.getElem?_cons_succ,
          Nat.add_right_comm base 1 x, Nat.add_assoc base x 1]

/-- The steps of a literal take its characters one after another. -/
private theorem program_literal {text : Text} (filled : text ≠ []) (x : Nat) :
    (literal text).program[x]? = if x = text.length then some .accept
      else text[x]?.map fun c => .one (.only c) (x + 1) := by
  have code := code_literal filled 0 x
  rw [Nat.zero_add, Nat.zero_add] at code
  rw [program_getElem?, size_literal filled, code]
  rcases Nat.lt_trichotomy x text.length with small | rfl | large
  · rw [if_pos small, if_neg (Nat.ne_of_lt small)]
  · rw [if_neg (Nat.lt_irrefl _), if_pos rfl, if_pos rfl]
  · rw [if_neg (Nat.lt_asymm large), if_neg (Nat.ne_of_gt large), if_neg (Nat.ne_of_gt large),
      List.getElem?_eq_none (Nat.le_of_lt large), Option.map_none]

end Regex

section
variable {text : Text} (filled : text ≠ [])
include filled

private theorem settled_literal (place : Place) {x : Nat} (inside : x ≤ text.length) :
    settled (Regex.literal text).program place [⟨x, []⟩] = [⟨x, []⟩] := by
  apply (settles_settled _ _ _).unique
  have step := Regex.program_literal filled x
  by_cases last : x = text.length
  · rw [if_pos last] at step
    exact .accept (by simp) step
  · rw [if_neg last, List.getElem?_eq_getElem (by omega)] at step
    exact .wait (by simp) step .nil

private theorem accepted?_literal (place : Place) {x : Nat} (inside : x ≤ text.length) :
    accepted? (Regex.literal text).program place [⟨x, []⟩] =
      if x = text.length then some (place.position, []) else none := by
  rw [accepted?, List.findSome?_singleton, Thread.accepted?, Regex.program_literal filled]
  dsimp only
  by_cases last : x = text.length
  · rw [if_pos last, if_pos last]
  · rw [if_neg last, if_neg last, List.getElem?_eq_getElem (by omega)]
    rfl

private theorem take_literal (c : Char) {x : Nat} (inside : x ≤ text.length) :
    take (Regex.literal text).program c [⟨x, []⟩] =
      if text[x]? = some c then [⟨x + 1, []⟩] else [] := by
  rw [take, List.filterMap_cons, List.filterMap_nil, Thread.take?, Regex.program_literal filled]
  dsimp only
  by_cases last : x = text.length
  · rw [if_pos last, last, List.getElem?_eq_none (Nat.le_refl _)]
    rfl
  · rw [if_neg last, List.getElem?_eq_getElem (by omega), Option.map_some]
    simp only [Option.some.injEq]
    by_cases same : text[x] = c
    · rw [if_pos ((has_only _ _).mpr same), if_pos same]
    · rw [if_neg (fun has => same ((has_only _ _).mp has)), if_neg same]

/-- A literal goes on as long as the text that follows agrees with it. -/
private theorem run_literal (rest : Text) (position : Nat) (before : Option Char) {x : Nat}
    (inside : x ≤ text.length) :
    run (Regex.literal text).program position before rest [⟨x, []⟩] =
      if text.drop x <+: rest then some (position + (text.length - x), []) else none := by
  induction rest generalizing position before x with
  | nil =>
    have done : text.drop x <+: [] ↔ x = text.length := by
      rw [List.prefix_nil, List.drop_eq_nil_iff]
      omega
    rw [run, settled_literal filled _ inside, accepted?_literal filled _ inside]
    by_cases last : x = text.length
    · rw [if_pos last, if_pos (done.mpr last), last, Nat.sub_self, Nat.add_zero]
    · rw [if_neg last, if_neg (fun at_ => last (done.mp at_))]
  | cons c rest ih =>
    rw [run_cons, settled_literal filled _ inside, accepted?_literal filled _ inside,
      take_literal filled c inside]
    by_cases last : x = text.length
    · rw [last, List.getElem?_eq_none (Nat.le_refl _), if_neg (by simp), run_nil, if_pos rfl,
        List.drop_length, if_pos List.nil_prefix, Nat.sub_self, Nat.add_zero, Option.none_or]
    · have more : x < text.length := by omega
      have agrees : text.drop x <+: c :: rest ↔ text[x] = c ∧ text.drop (x + 1) <+: rest := by
        rw [List.drop_eq_getElem_cons more, List.cons_prefix_cons]
      rw [if_neg last, Option.or_none, List.getElem?_eq_getElem more]
      simp only [Option.some.injEq]
      by_cases same : text[x] = c
      · have count : position + 1 + (text.length - (x + 1)) = position + (text.length - x) := by
          omega
        rw [if_pos same, ih _ _ more, count]
        by_cases begins : text.drop (x + 1) <+: rest
        · rw [if_pos begins, if_pos (agrees.mpr ⟨same, begins⟩)]
        · rw [if_neg begins, if_neg fun at_ => begins (agrees.mp at_).2]
      · rw [if_neg same, if_neg fun at_ => same (agrees.mp at_).1, run_nil]

/-- A literal matches where the text that follows begins with it. -/
theorem matchAt_literal (place : Place) :
    matchAt (Regex.literal text).program place =
      if text <+: place.rest then some ⟨place.position, place.position + text.length, []⟩
      else none := by
  rw [matchAt, run_literal filled place.rest place.position place.before (Nat.zero_le _),
    List.drop_zero, Nat.sub_zero]
  split <;> rfl

end

end LocaleLint.Pattern
