import Mathlib
import LocaleLint.Text.Basic

/-!
# Splitting and joining

Joining the parts of a text gives the text back, and texts without the separator are the parts of
what they are joined to.
-/

namespace LocaleLint.Text

theorem decide_ne_of_notMem {c : Char} {s : Text} (plain : c ∉ s) :
    ∀ d ∈ s, decide (d ≠ c) = true :=
  fun _ inside => decide_eq_true fun same => plain (same ▸ inside)

theorem splitOn_ne_nil (separator : Char) (s : Text) : splitOn separator s ≠ [] := by
  cases s with
  | nil => simp [splitOn]
  | cons c rest =>
    rw [splitOn]
    split
    · simp
    · split <;> simp

theorem joinWith_cons_cons (separator first second : Text) (rest : List Text) :
    joinWith separator (first :: second :: rest) =
      first ++ separator ++ joinWith separator (second :: rest) := rfl

theorem joinWith_cons_ne_nil (separator : Text) {first : Text} (filled : first ≠ [])
    (rest : List Text) : joinWith separator (first :: rest) ≠ [] := by
  cases rest with
  | nil => exact filled
  | cons second others =>
    rw [joinWith_cons_cons]
    simp [filled]

/-- Joining the parts of a text gives the text back. -/
theorem joinWith_splitOn (separator : Char) (s : Text) :
    joinWith [separator] (splitOn separator s) = s := by
  induction s with
  | nil => rfl
  | cons c rest ih =>
    obtain ⟨part, parts, split⟩ := List.exists_cons_of_ne_nil (splitOn_ne_nil separator rest)
    rw [split] at ih
    by_cases same : c = separator
    · rw [splitOn, if_pos same, split, joinWith_cons_cons, ih, same]
      rfl
    · rw [splitOn, if_neg same, split]
      cases parts with
      | nil => exact congrArg (c :: ·) ih
      | cons second parts => exact congrArg (c :: ·) ih

/-- A separator cuts a text into what is in front of it and what is behind it. -/
theorem splitOn_append_cons (separator : Char) (front rest : Text) :
    splitOn separator (front ++ separator :: rest) =
      splitOn separator front ++ splitOn separator rest := by
  induction front with
  | nil => simp [splitOn]
  | cons c front ih =>
    obtain ⟨part, parts, split⟩ := List.exists_cons_of_ne_nil (splitOn_ne_nil separator front)
    rw [split] at ih
    rw [List.cons_append, splitOn, splitOn, ih, split]
    split <;> rfl

theorem splitOn_plain {separator : Char} {part : Text} (clean : separator ∉ part) :
    splitOn separator part = [part] := by
  induction part with
  | nil => rfl
  | cons c part ih =>
    have other : c ≠ separator := fun same => clean (by simp [same])
    rw [splitOn, if_neg other, ih fun inside => clean (List.mem_cons_of_mem c inside)]

theorem splitOn_append {separator : Char} {part : Text} (clean : separator ∉ part)
    (rest : Text) :
    splitOn separator (part ++ separator :: rest) = part :: splitOn separator rest := by
  rw [splitOn_append_cons, splitOn_plain clean]
  rfl

/-- The parts of texts that are joined are the parts of the first one, then those of the next one,
and so on. -/
theorem splitOn_joinWith_eq_flatMap (separator : Char) {texts : List Text} (some : texts ≠ []) :
    splitOn separator (joinWith [separator] texts) = texts.flatMap (splitOn separator) := by
  induction texts with
  | nil => exact absurd rfl some
  | cons first rest ih =>
    rw [List.flatMap_cons]
    cases rest with
    | nil => exact (List.append_nil _).symm
    | cons second others =>
      rw [joinWith_cons_cons, List.append_assoc, List.singleton_append, splitOn_append_cons,
        ih (List.cons_ne_nil _ _)]

/-- Texts without the separator are the parts of what they are joined to. -/
theorem splitOn_joinWith {separator : Char} {parts : List Text} (some : parts ≠ [])
    (clean : ∀ part ∈ parts, separator ∉ part) :
    splitOn separator (joinWith [separator] parts) = parts := by
  rw [splitOn_joinWith_eq_flatMap separator some,
    List.flatMap_congr fun part inside => splitOn_plain (clean part inside)]
  exact List.flatMap_singleton' parts

/-- Where a run of characters stops, a text has only one cut behind it. -/
theorem append_inj_of_forall {P : Char → Prop} {s s' t t' : Text} (run : ∀ c ∈ s, P c)
    (run' : ∀ c ∈ s', P c) (stops : ∀ c ∈ t.head?, ¬ P c) (stops' : ∀ c ∈ t'.head?, ¬ P c)
    (same : s ++ t = s' ++ t') : s = s' ∧ t = t' := by
  induction s generalizing s' with
  | nil =>
    cases s' with
    | nil => exact ⟨rfl, same⟩
    | cons d s' =>
      refine absurd (run' d List.mem_cons_self) (stops d ?_)
      rw [List.nil_append] at same
      rw [same]
      rfl
  | cons c s ih =>
    obtain ⟨first, others⟩ := List.forall_mem_cons.mp run
    cases s' with
    | nil =>
      refine absurd first (stops' c ?_)
      rw [List.nil_append] at same
      rw [← same]
      rfl
    | cons d s' =>
      obtain ⟨rfl, behind⟩ := List.cons.inj same
      obtain ⟨rfl, rfl⟩ := ih others (List.forall_mem_cons.mp run').2 behind
      exact ⟨rfl, rfl⟩

end LocaleLint.Text
