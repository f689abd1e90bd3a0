import Mathlib
import LocaleLint.Proofs.EditDistance.Edits
import LocaleLint.Proofs.Number.Accuracy

/-!
# Similarity

The part of the longer text that edits leave alone says how similar two texts are. This number is
exact; the score that thresholds are compared with is computed with doubles and is near to it.
-/

namespace LocaleLint.EditDistance

theorem distance_comm (s t : Text) : distance s t = distance t s := by
  have le : ∀ u v, distance u v ≤ distance v u := fun u v =>
    distance_le_of_edits (edits_distance v u).symm
  exact Nat.le_antisymm (le s t) (le t s)

theorem distance_eq_zero_iff {s t : Text} : distance s t = 0 ↔ s = t := by
  constructor
  · intro none
    exact (none ▸ edits_distance s t).eq_of_zero
  · rintro rfl
    exact Nat.le_zero.mp (distance_le_of_edits (.refl s))

theorem fewest_le_max (s t : Text) : fewest s t ≤ max s.length t.length := by
  induction s generalizing t with
  | nil => simp
  | cons c s ih =>
    cases t with
    | nil => simp
    | cons d t =>
      have both := ih t
      rw [fewest_cons_cons, List.length_cons, List.length_cons]
      split_ifs <;> omega

theorem distance_le_longer (s t : Text) : distance s t ≤ longer s t := by
  simpa [distance_eq_fewest, longer] using fewest_le_max s.reverse t.reverse

theorem longer_comm (s t : Text) : longer s t = longer t s := Nat.max_comm _ _

theorem eq_of_longer_eq_zero {s t : Text} (empty : longer s t = 0) : s = t := by
  have none := Nat.le_zero.mp (empty ▸ distance_le_longer s t)
  exact distance_eq_zero_iff.mp none

/-- The similarity of two texts as an exact number: what their distance lacks to the length of the
longer one, as a part of that length. Empty texts are alike. -/
def similarity (s t : Text) : ℚ :=
  if longer s t = 0 then 1 else 1 - distance s t / longer s t

theorem similarity_comm (s t : Text) : similarity s t = similarity t s := by
  rw [similarity, similarity, longer_comm, distance_comm]

theorem score_comm (s t : Text) : score s t = score t s := by
  rw [score, score, longer_comm, distance_comm]

theorem distance_ratio_le (s t : Text) : (distance s t : ℚ) / longer s t ≤ 1 :=
  div_le_one_of_le₀ (Nat.cast_le.mpr (distance_le_longer s t)) (Nat.cast_nonneg _)

theorem similarity_nonneg (s t : Text) : 0 ≤ similarity s t := by
  unfold similarity
  split
  · exact zero_le_one
  · exact sub_nonneg.mpr (distance_ratio_le s t)

theorem similarity_le_one (s t : Text) : similarity s t ≤ 1 := by
  unfold similarity
  split
  · exact le_rfl
  · exact sub_le_self 1 (by positivity)

theorem similarity_eq_one_iff {s t : Text} : similarity s t = 1 ↔ s = t := by
  unfold similarity
  split
  case isTrue empty => simp [eq_of_longer_eq_zero empty]
  case isFalse filled => simp [filled, distance_eq_zero_iff]

/-- The score is a double between zero and one, and two roundings away from the similarity. -/
theorem score_approximates (s t : Text) :
    (score s t).Approximates (similarity s t) (1 / 2 ^ 52) := by
  unfold score similarity
  split
  case isTrue => exact Double.one_approximates (by norm_num)
  case isFalse filled =>
    have ratio :=
      Double.nearest_approximates (Nat.pos_of_ne_zero filled) (distance_ratio_le s t)
    have difference := Double.complement_approximates ratio.nonneg ratio.atMost
    refine ⟨difference.normal, difference.nonneg, difference.atMost, ?_⟩
    have first := abs_le.mp ratio.near
    have second := abs_le.mp difference.near
    rw [abs_le]
    constructor <;> linarith

/-- Similarity is symmetric and between zero and one, and one exactly for equal texts. The score is
symmetric as well, and between zero and one it differs from the similarity by `2 ^ -52` at most. -/
theorem similarity_symm_bounded (s t : Text) :
    similarity s t = similarity t s ∧ 0 ≤ similarity s t ∧ similarity s t ≤ 1 ∧
      (similarity s t = 1 ↔ s = t) ∧ score s t = score t s ∧
      (score s t).Approximates (similarity s t) (1 / 2 ^ 52) :=
  ⟨similarity_comm s t, similarity_nonneg s t, similarity_le_one s t, similarity_eq_one_iff,
    score_comm s t, score_approximates s t⟩

end LocaleLint.EditDistance
