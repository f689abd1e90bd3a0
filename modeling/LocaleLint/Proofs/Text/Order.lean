import Mathlib
import LocaleLint.Proofs.Sorting
import LocaleLint.Text.Basic

/-!
# The order of texts

Texts are ordered totally, character by character.
-/

namespace LocaleLint.Text

theorem isLexicographic_le : IsLexicographic (fun c d : Char => decide (c ≤ d)) le where
  nil _ := rfl
  cons_nil _ _ := rfl
  cons {c s d t} := by
    rw [le, Bool.or_eq_true, Bool.and_eq_true, decide_eq_true_eq, beq_iff_eq, decide_eq_true_eq,
      lt_iff_le_and_ne, or_comm, and_comm (a := c ≤ d)]

theorem isTotalOrder_le : IsTotalOrder le := by
  refine isLexicographic_le.isTotalOrder ⟨fun c d => ?_, fun first second => ?_,
    fun first second => ?_⟩
  all_goals simp only [decide_eq_true_eq] at *
  · exact le_total c d
  · exact first.trans second
  · exact first.antisymm second

end LocaleLint.Text
