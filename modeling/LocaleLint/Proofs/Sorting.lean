import Mathlib

/-!
# Lists in order

Lists of ordered items are ordered item by item. Sorting keeps the order of items that may stand in
either order, what is left without copies are the first ones, and where the items are in order, the
first one of a kind is before the others.
-/

namespace LocaleLint

variable {α : Type}

/-- Each two items can be compared, and only an item itself is both before and behind it. -/
structure IsTotalOrder (le : α → α → Bool) : Prop where
  total : ∀ a b, le a b = true ∨ le b a = true
  trans : ∀ {a b c}, le a b = true → le b c = true → le a c = true
  antisymm : ∀ {a b}, le a b = true → le b a = true → a = b

/-- Lists are compared item by item: a list is before those that go on from it, and otherwise the
first items that differ decide. -/
structure IsLexicographic (le : α → α → Bool) (listLe : List α → List α → Bool) : Prop where
  nil : ∀ t, listLe [] t = true
  cons_nil : ∀ a s, listLe (a :: s) [] = false
  cons : ∀ {a s b t}, listLe (a :: s) (b :: t) = true ↔
    a = b ∧ listLe s t = true ∨ a ≠ b ∧ le a b = true

namespace IsTotalOrder

variable {le : α → α → Bool} (order : IsTotalOrder le)
include order

theorem flip : IsTotalOrder fun a b => le b a where
  total a b := order.total b a
  trans first second := order.trans second first
  antisymm first second := order.antisymm second first

theorem pairwise_mergeSort (l : List α) : (l.mergeSort le).Pairwise fun a b => le a b = true := by
  have trans (a b c : α) : le a b = true → le b c = true → le a c = true := order.trans
  have total (a b : α) : (le a b || le b a) = true := Bool.or_eq_true_iff.mpr (order.total a b)
  exact List.pairwise_mergeSort trans total l

end IsTotalOrder

namespace IsLexicographic

variable {le : α → α → Bool} {listLe : List α → List α → Bool}

/-- Where the items are ordered, their lists are. -/
theorem isTotalOrder (lexicographic : IsLexicographic le listLe) (order : IsTotalOrder le) :
    IsTotalOrder listLe where
  total s t := by
    induction s generalizing t with
    | nil => exact .inl (lexicographic.nil t)
    | cons a s ih =>
      cases t with
      | nil => exact .inr (lexicographic.nil _)
      | cons b t =>
        rw [lexicographic.cons, lexicographic.cons]
        by_cases same : a = b
        · exact (ih t).imp (fun le => .inl ⟨same, le⟩) fun le => .inl ⟨same.symm, le⟩
        · exact (order.total a b).imp (fun le => .inr ⟨same, le⟩)
            fun le => .inr ⟨Ne.symm same, le⟩
  trans {s t u} first second := by
    induction s generalizing t u with
    | nil => exact lexicographic.nil u
    | cons a s ih =>
      cases t with
      | nil => simp [lexicographic.cons_nil] at first
      | cons b t =>
        cases u with
        | nil => simp [lexicographic.cons_nil] at second
        | cons c u =>
          rw [lexicographic.cons] at first second ⊢
          rcases first with ⟨rfl, le⟩ | ⟨differs, le⟩
          · exact second.imp_left fun ⟨same, le'⟩ => ⟨same, ih le le'⟩
          · rcases second with ⟨rfl, -⟩ | ⟨-, le'⟩
            · exact .inr ⟨differs, le⟩
            · refine .inr ⟨fun same => differs ?_, order.trans le le'⟩
              subst same
              exact order.antisymm le le'
  antisymm {s t} first second := by
    induction s generalizing t with
    | nil =>
      cases t with
      | nil => rfl
      | cons b t => simp [lexicographic.cons_nil] at second
    | cons a s ih =>
      cases t with
      | nil => simp [lexicographic.cons_nil] at first
      | cons b t =>
        rw [lexicographic.cons] at first second
        rcases first with ⟨rfl, le⟩ | ⟨differs, le⟩
        · rw [ih le (second.resolve_right fun other => other.1 rfl).2]
        · have le' := (second.resolve_left fun other => differs other.1.symm).2
          exact absurd (order.antisymm le le') differs

end IsLexicographic

/-- Items that may stand in either order have kept theirs in a sorted list. -/
theorem sublist_of_sublist_mergeSort {le : α → α → Bool}
    (trans : ∀ a b c, le a b = true → le b c = true → le a c = true)
    (total : ∀ a b, (le a b || le b a) = true) {l : List α} {a b : α}
    (pair : [a, b].Sublist (l.mergeSort le)) (tied : le b a = true) : [a, b].Sublist l := by
  -- Of the items that are tied with `a`, sorting keeps the order: they are sorted already.
  let p := fun c => le a c && le c a
  have sorted : (l.filter p).Pairwise fun c d => le c d = true := by
    refine List.pairwise_of_forall_mem_list fun c left d right => ?_
    have behind := (Bool.and_eq_true_iff.mp (List.mem_filter.mp left).2).2
    have ahead := (Bool.and_eq_true_iff.mp (List.mem_filter.mp right).2).1
    exact trans c a d behind ahead
  have inside : (l.filter p).Sublist ((l.mergeSort le).filter p) := by
    simpa using (List.sublist_mergeSort trans total sorted List.filter_sublist).filter p
  have same := inside.eq_of_length ((List.mergeSort_perm l le).filter p).length_eq.symm
  have ordered : le a b = true :=
    List.pairwise_iff_forall_sublist.mp (List.pairwise_mergeSort trans total l) pair
  have self : le a a = true := trans a b a ordered tied
  have both : [a, b].filter p = [a, b] := by simp [p, self, ordered, tied]
  have kept := pair.filter p
  rw [both, ← same] at kept
  exact kept.trans List.filter_sublist

theorem eraseDups_append_singleton [BEq α] [LawfulBEq α] (l : List α) (a : α) [Decidable (a ∈ l)] :
    (l ++ [a]).eraseDups = if a ∈ l then l.eraseDups else l.eraseDups ++ [a] := by
  rw [List.eraseDups_append]
  split
  · next inside => simp [List.removeAll, inside]
  · next fresh => simp [List.removeAll, fresh, List.eraseDups_cons]

/-- The first copies of the items of a list stand in the order of the list. -/
theorem pairwise_eraseDups [BEq α] [LawfulBEq α] (l : List α) :
    l.eraseDups.Pairwise fun a b => l.idxOf a < l.idxOf b := by
  induction l using List.reverseRecOn with
  | nil => exact .nil
  | append_singleton l a ih =>
    have earlier : ∀ b ∈ l.eraseDups, (l ++ [a]).idxOf b = l.idxOf b := fun b inside =>
      List.idxOf_append_of_mem (List.mem_eraseDups.mp inside)
    have front : l.eraseDups.Pairwise fun b c => (l ++ [a]).idxOf b < (l ++ [a]).idxOf c :=
      ih.imp_of_mem fun left right less => by rwa [earlier _ left, earlier _ right]
    classical
    rw [eraseDups_append_singleton]
    split
    · exact front
    · next fresh =>
      refine List.pairwise_append.mpr ⟨front, List.pairwise_singleton _ _, fun b inside c same => ?_⟩
      rw [List.mem_singleton.mp same, earlier b inside, List.idxOf_append_of_notMem fresh]
      have := List.idxOf_lt_length_iff.mpr (List.mem_eraseDups.mp inside)
      omega

theorem nodup_eraseDups [BEq α] [LawfulBEq α] (l : List α) : l.eraseDups.Nodup :=
  (pairwise_eraseDups l).imp fun {a b} before same => by
    rw [same] at before
    exact lt_irrefl _ before

/-- In a list that is in order, the first item that passes a test stands before all others that
do. -/
theorem find?_eq_some_iff_of_pairwise {R : α → α → Prop} (asymm : ∀ a b, R a b → ¬ R b a)
    {list : List α} (ordered : list.Pairwise R) {p : α → Bool} {a : α} :
    list.find? p = some a ↔ a ∈ list ∧ p a = true ∧ ∀ b ∈ list, p b = true → b = a ∨ R a b := by
  have first {a : α} (found : list.find? p = some a) :
      a ∈ list ∧ p a = true ∧ ∀ b ∈ list, p b = true → b = a ∨ R a b := by
    obtain ⟨passes, before, after, rfl, others⟩ := List.find?_eq_some_iff_append.mp found
    refine ⟨by simp, passes, fun b inside passes' => ?_⟩
    rw [List.pairwise_append, List.pairwise_cons] at ordered
    rw [List.mem_append, List.mem_cons] at inside
    rcases inside with earlier | same | later
    · exact absurd passes' (by simpa using others b earlier)
    · exact .inl same
    · exact .inr (ordered.2.1.1 b later)
  refine ⟨first, fun ⟨inside, passes, least⟩ => ?_⟩
  obtain ⟨a', found⟩ := Option.isSome_iff_exists.mp (List.find?_isSome.mpr ⟨a, inside, passes⟩)
  obtain ⟨inside', passes', least'⟩ := first found
  rcases least a' inside' passes' with rfl | before
  · exact found
  · rcases least' a inside passes with rfl | before'
    · exact found
    · exact absurd before' (asymm _ _ before)

end LocaleLint
