import Mathlib
import LocaleLint.EditDistance

/-!
# Least numbers of edits

An edit inserts, deletes or replaces one character anywhere in a text. The table of distances, which
is filled row by row, ends with the least number of edits that turn the first text into the second.
-/

namespace LocaleLint.EditDistance

/-- One character of a text is inserted, deleted or replaced. -/
inductive Edit : Text → Text → Prop
  | insert (before : Text) (c : Char) (after : Text) : Edit (before ++ after) (before ++ c :: after)
  | delete (before : Text) (c : Char) (after : Text) : Edit (before ++ c :: after) (before ++ after)
  | replace (before : Text) (c d : Char) (after : Text) :
      Edit (before ++ c :: after) (before ++ d :: after)

/-- A number of edits, one after another, turn a text into another one. -/
inductive Edits : Nat → Text → Text → Prop
  | refl (s : Text) : Edits 0 s s
  | step {n : Nat} {s t u : Text} (first : Edit s t) (others : Edits n t u) : Edits (n + 1) s u

namespace Edit

variable {s t : Text}

theorem cons (c : Char) (edit : Edit s t) : Edit (c :: s) (c :: t) := by
  cases edit with
  | insert before d after => exact .insert (c :: before) d after
  | delete before d after => exact .delete (c :: before) d after
  | replace before d e after => exact .replace (c :: before) d e after

/-- An edit is made at the front, or behind a character that both texts begin with. -/
@[elab_as_elim]
theorem front_induction {motive : (s t : Text) → Edit s t → Prop}
    (insert : ∀ c s, motive s (c :: s) (.insert [] c s))
    (delete : ∀ c s, motive (c :: s) s (.delete [] c s))
    (replace : ∀ c d s, motive (c :: s) (d :: s) (.replace [] c d s))
    (behind : ∀ c {s t} (edit : Edit s t), motive s t edit → motive (c :: s) (c :: t) (edit.cons c))
    (edit : Edit s t) : motive s t edit := by
  cases edit with
  | insert before c after =>
    induction before with
    | nil => exact insert c after
    | cons b before ih => exact behind b _ ih
  | delete before c after =>
    induction before with
    | nil => exact delete c after
    | cons b before ih => exact behind b _ ih
  | replace before c d after =>
    induction before with
    | nil => exact replace c d after
    | cons b before ih => exact behind b _ ih

theorem symm (edit : Edit s t) : Edit t s := by
  cases edit with
  | insert before c after => exact .delete before c after
  | delete before c after => exact .insert before c after
  | replace before c d after => exact .replace before d c after

theorem reverse (edit : Edit s t) : Edit s.reverse t.reverse := by
  cases edit with
  | insert before c after => simpa using Edit.insert after.reverse c before.reverse
  | delete before c after => simpa using Edit.delete after.reverse c before.reverse
  | replace before c d after => simpa using Edit.replace after.reverse c d before.reverse

end Edit

namespace Edits

variable {n : Nat} {s t u : Text}

theorem cons (c : Char) (edits : Edits n s t) : Edits n (c :: s) (c :: t) := by
  induction edits with
  | refl s => exact .refl _
  | step first _ ih => exact .step (first.cons c) ih

theorem concat (edits : Edits n s t) (last : Edit t u) : Edits (n + 1) s u := by
  induction edits with
  | refl s => exact .step last (.refl u)
  | step first _ ih => exact .step first (ih last)

theorem symm (edits : Edits n s t) : Edits n t s := by
  induction edits with
  | refl s => exact .refl s
  | step first _ ih => exact ih.concat first.symm

theorem reverse (edits : Edits n s t) : Edits n s.reverse t.reverse := by
  induction edits with
  | refl s => exact .refl _
  | step first _ ih => exact .step first.reverse ih

theorem reverse_iff : Edits n s.reverse t.reverse ↔ Edits n s t :=
  ⟨fun edits => by simpa using edits.reverse, reverse⟩

theorem eq_of_zero (edits : Edits 0 s t) : s = t := by
  cases edits
  rfl

end Edits

/-- How many edits it takes if both texts are gone through from their first characters on. -/
def fewest : Text → Text → Nat
  | [], t => t.length
  | s, [] => s.length
  | c :: s, d :: t =>
    min (fewest s t + if c = d then 0 else 1) (min (fewest s (d :: t) + 1) (fewest (c :: s) t + 1))
termination_by s t => s.length + t.length

@[simp] theorem fewest_nil_left (t : Text) : fewest [] t = t.length := by
  rw [fewest]

@[simp] theorem fewest_nil_right (s : Text) : fewest s [] = s.length := by
  cases s <;> simp [fewest]

theorem fewest_cons_cons (c d : Char) (s t : Text) :
    fewest (c :: s) (d :: t) = min (fewest s t + if c = d then 0 else 1)
      (min (fewest s (d :: t) + 1) (fewest (c :: s) t + 1)) := by
  rw [fewest]

/-- There are edits as few as that. -/
theorem edits_fewest (s t : Text) : Edits (fewest s t) s t := by
  induction s generalizing t with
  | nil =>
    rw [fewest_nil_left]
    induction t with
    | nil => exact .refl []
    | cons d t ih => exact .step (.insert [] d []) (ih.cons d)
  | cons c s shorter =>
    induction t with
    | nil =>
      have others := shorter []
      rw [fewest_nil_right] at others ⊢
      exact .step (.delete [] c s) others
    | cons d t ih =>
      rw [fewest_cons_cons]
      rcases min_choice (fewest s t + if c = d then 0 else 1)
        (min (fewest s (d :: t) + 1) (fewest (c :: s) t + 1)) with both | one
      · rw [both]
        split
        case isTrue same => exact same ▸ (shorter t).cons c
        case isFalse => exact .step (.replace [] c d s) ((shorter t).cons d)
      · rw [one]
        rcases min_choice (fewest s (d :: t) + 1) (fewest (c :: s) t + 1) with left | right
        · rw [left]
          exact .step (.delete [] c s) (shorter (d :: t))
        · rw [right]
          exact .step (.insert [] d (c :: s)) (ih.cons d)

theorem fewest_self (s : Text) : fewest s s = 0 := by
  induction s with
  | nil => rw [fewest_nil_left, List.length_nil]
  | cons c s ih => simp [fewest_cons_cons, ih]

theorem fewest_cons_left_le (c : Char) (s t : Text) : fewest (c :: s) t ≤ fewest s t + 1 := by
  cases t with
  | nil => simp
  | cons d t => rw [fewest_cons_cons]; omega

theorem fewest_cons_right_le (d : Char) (s t : Text) : fewest s (d :: t) ≤ fewest s t + 1 := by
  cases s with
  | nil => simp
  | cons c s => rw [fewest_cons_cons]; omega

theorem fewest_le_cons_left (c : Char) (s t : Text) : fewest s t ≤ fewest (c :: s) t + 1 := by
  induction t with
  | nil => simp; omega
  | cons d t ih =>
    have longer := fewest_cons_right_le d s t
    rw [fewest_cons_cons]
    omega

theorem fewest_replace_le (c d : Char) (s t : Text) :
    fewest (c :: s) t ≤ fewest (d :: s) t + 1 := by
  induction t with
  | nil => simp
  | cons e t ih =>
    rw [fewest_cons_cons, fewest_cons_cons]
    split_ifs <;> omega

/-- A character in front of both texts makes room for no better way to change them. -/
theorem fewest_cons_le {a b : Text} (c : Char) (near : ∀ t, fewest a t ≤ fewest b t + 1) (t : Text) :
    fewest (c :: a) t ≤ fewest (c :: b) t + 1 := by
  induction t with
  | nil => simpa using near []
  | cons d t ih =>
    have both := near t
    have left := near (d :: t)
    rw [fewest_cons_cons, fewest_cons_cons]
    omega

/-- One edit changes the number of edits to any text by one at most. -/
theorem fewest_le_of_edit {s s' : Text} (edit : Edit s s') (t : Text) :
    fewest s t ≤ fewest s' t + 1 := by
  induction edit using Edit.front_induction generalizing t with
  | insert c s => exact fewest_le_cons_left c s t
  | delete c s => exact fewest_cons_left_le c s t
  | replace c d s => exact fewest_replace_le c d s t
  | behind c edit ih => exact fewest_cons_le c ih t

theorem fewest_le_of_edits {n : Nat} {s t : Text} (edits : Edits n s t) : fewest s t ≤ n := by
  induction edits with
  | refl s => exact (fewest_self s).le
  | step first _ ih => exact (fewest_le_of_edit first _).trans (Nat.succ_le_succ ih)

/-- A row of the table: how far a beginning `s` of the first text is from the beginnings of the
second one that go on from `r`. Beginnings stand with their last characters first. -/
def tableRow (s : Text) : (r rest : Text) → List Nat
  | r, [] => [fewest s r]
  | r, d :: rest => fewest s r :: tableRow s (d :: r) rest

theorem tableRow_eq_cons (s r rest : Text) :
    tableRow s r rest = fewest s r :: (tableRow s r rest).tail := by
  cases rest <;> rfl

theorem firstRow_eq (t : Text) : firstRow t = tableRow [] [] t := by
  have onward : ∀ r, List.range' r.length (t.length + 1) = tableRow [] r t := by
    induction t with
    | nil => intro r; simp [tableRow]
    | cons d t ih =>
      intro r
      rw [tableRow, ← ih (d :: r), List.range'_succ]
      simp
  rw [firstRow, List.range_eq_range']
  exact onward []

theorem nextEntries_eq (c : Char) (s r rest : Text) :
    nextEntries c (fewest (c :: s) r) rest (tableRow s r rest) =
      (tableRow (c :: s) r rest).tail := by
  induction rest generalizing r with
  | nil => rfl
  | cons d rest ih =>
    rw [tableRow, tableRow_eq_cons s (d :: r), nextEntries, ← fewest_cons_cons,
      ← tableRow_eq_cons, ih, tableRow, List.tail_cons, ← tableRow_eq_cons]

theorem nextRow_eq (c : Char) (s t : Text) :
    nextRow t (tableRow s [] t) c = tableRow (c :: s) [] t := by
  have left : (tableRow s [] t).headD 0 + 1 = fewest (c :: s) [] := by
    rw [tableRow_eq_cons]
    simp
  rw [nextRow, left, nextEntries_eq, ← tableRow_eq_cons]

theorem foldl_nextRow (s r t : Text) :
    s.foldl (nextRow t) (tableRow r [] t) = tableRow (s.reverse ++ r) [] t := by
  induction s generalizing r with
  | nil => rfl
  | cons c s ih => simp [nextRow_eq, ih]

theorem getLastD_tableRow (n : Nat) (s r rest : Text) :
    (tableRow s r rest).getLastD n = fewest s (rest.reverse ++ r) := by
  induction rest generalizing n r with
  | nil => rfl
  | cons d rest ih => rw [tableRow, List.getLastD_cons, ih, List.reverse_cons, List.append_assoc,
      List.singleton_append]

/-- The last entry of the last row is about the whole texts. -/
theorem distance_eq_fewest (s t : Text) : distance s t = fewest s.reverse t.reverse := by
  rw [distance, firstRow_eq, foldl_nextRow, getLastD_tableRow, List.append_nil, List.append_nil]

theorem edits_distance (s t : Text) : Edits (distance s t) s t := by
  rw [distance_eq_fewest, ← Edits.reverse_iff]
  exact edits_fewest s.reverse t.reverse

theorem distance_le_of_edits {n : Nat} {s t : Text} (edits : Edits n s t) : distance s t ≤ n := by
  rw [distance_eq_fewest]
  exact fewest_le_of_edits edits.reverse

/-- The distance of two texts is the least number of edits that turn the first one into the
second. -/
theorem distance_isLeast (s t : Text) : IsLeast {n | Edits n s t} (distance s t) :=
  ⟨edits_distance s t, fun _ edits => distance_le_of_edits edits⟩

end LocaleLint.EditDistance
