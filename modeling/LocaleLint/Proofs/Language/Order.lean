import Mathlib
import LocaleLint.Language.Removal
import LocaleLint.Proofs.Text.Order

/-!
# The order of removals

Parts, and lists of parts, are ordered totally, so the order of the removals of keys is the same
whatever the order of the keys. It is descending: of two lists that part at an index of an array, the
one with the greater index is first, and a list is behind its continuations.
-/

namespace LocaleLint.Removal

theorem partLe_total (a b : Text) : partLe a b = true ∨ partLe b a = true := by
  unfold partLe
  cases Text.toIndex? a with
  | none =>
    cases Text.toIndex? b with
    | none => exact Text.isTotalOrder_le.total a b
    | some n => exact .inl rfl
  | some m =>
    cases Text.toIndex? b with
    | none => exact .inr rfl
    | some n =>
      simp only [Bool.or_eq_true, Bool.and_eq_true, decide_eq_true_eq, beq_iff_eq]
      rcases lt_trichotomy m n with less | rfl | greater
      · exact .inl (.inl less)
      · exact (Text.isTotalOrder_le.total a b).imp (fun le => .inr ⟨rfl, le⟩)
          fun le => .inr ⟨rfl, le⟩
      · exact .inr (.inl greater)

theorem partLe_trans {a b c : Text} (first : partLe a b = true) (second : partLe b c = true) :
    partLe a c = true := by
  unfold partLe at first second ⊢
  revert first second
  cases Text.toIndex? a with
  | none =>
    cases Text.toIndex? b with
    | none => cases Text.toIndex? c with
      | none => exact Text.isTotalOrder_le.trans
      | some k => exact fun _ _ => rfl
    | some n => cases Text.toIndex? c with
      | none => exact fun _ second => nomatch second
      | some k => exact fun _ _ => rfl
  | some m =>
    cases Text.toIndex? b with
    | none => exact fun first => nomatch first
    | some n => cases Text.toIndex? c with
      | none => exact fun _ second => nomatch second
      | some k =>
        have texts := @Text.isTotalOrder_le.trans a b c
        simp only [Bool.or_eq_true, Bool.and_eq_true, decide_eq_true_eq, beq_iff_eq]
        intro first second
        rcases first with less | ⟨rfl, le⟩
        · exact .inl (by omega)
        · exact second.imp_right fun ⟨same, le'⟩ => ⟨same, texts le le'⟩

theorem partLe_antisymm {a b : Text} (first : partLe a b = true) (second : partLe b a = true) :
    a = b := by
  unfold partLe at first second
  revert first second
  cases Text.toIndex? a with
  | none =>
    cases Text.toIndex? b with
    | none => exact Text.isTotalOrder_le.antisymm
    | some n => exact fun _ second => nomatch second
  | some m =>
    cases Text.toIndex? b with
    | none => exact fun first => nomatch first
    | some n =>
      simp only [Bool.or_eq_true, Bool.and_eq_true, decide_eq_true_eq, beq_iff_eq]
      intro first second
      have same : m = n := by omega
      subst same
      have within : ¬ m < m := lt_irrefl m
      exact Text.isTotalOrder_le.antisymm (first.resolve_left within).2 (second.resolve_left within).2

/-- A greater index is not before a smaller one. -/
theorem not_partLe_of_lt {a b : Text} {m n : Nat} (first : Text.toIndex? a = some m)
    (second : Text.toIndex? b = some n) (less : n < m) : ¬ partLe a b = true := by
  rw [partLe, first, second]
  simp only [Bool.or_eq_true, Bool.and_eq_true, decide_eq_true_eq, beq_iff_eq]
  omega

theorem partsLe_cons {a b : Text} {s t : List Text} :
    partsLe (a :: s) (b :: t) = true ↔
      a = b ∧ partsLe s t = true ∨ a ≠ b ∧ partLe a b = true := by
  rw [partsLe]
  split
  · rename_i same
    simp [same]
  · rename_i differs
    simp [differs]

theorem partsLe_append_left {front s t : List Text} :
    partsLe (front ++ s) (front ++ t) = partsLe s t := by
  induction front with
  | nil => rfl
  | cons a front ih => rw [List.cons_append, List.cons_append, partsLe, if_pos rfl, ih]

theorem isTotalOrder_partsLe : IsTotalOrder partsLe :=
  IsLexicographic.isTotalOrder ⟨fun _ => rfl, fun _ _ => rfl, partsLe_cons⟩
    ⟨partLe_total, partLe_trans, partLe_antisymm⟩

theorem mem_removalOrder {keys : List Text} {parts : List Text} :
    parts ∈ removalOrder keys ↔ ∃ key ∈ keys, partsOf key = parts := by
  rw [removalOrder, List.mem_mergeSort, List.mem_map]

theorem pairwise_removalOrder (keys : List Text) :
    (removalOrder keys).Pairwise fun earlier later => partsLe later earlier = true :=
  isTotalOrder_partsLe.flip.pairwise_mergeSort _

end LocaleLint.Removal
