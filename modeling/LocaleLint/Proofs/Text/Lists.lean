import Mathlib
import LocaleLint.Proofs.Text.Splitting

/-!
# Lists with commas

The items of a list that is written with commas hold no commas and no white space around them, so
each of them is the only item of itself. A list that is joined from entries has the items of each
entry, so it has the entries themselves only if there are no commas in them.
-/

namespace LocaleLint.Text

/-- White space around a text is taken away at once. -/
theorem trim_trim (s : Text) : trim (trim s) = trim s := by
  have front : trim s <+: trimStart s := List.rdropWhile_prefix isWhite _
  have start : trimStart (trim s) = trim s := by
    refine List.dropWhile_eq_self_iff.mpr fun filled => ?_
    rw [front.getElem filled]
    exact List.dropWhile_eq_self_iff.mp (List.dropWhile_idempotent isWhite s) _
  rw [trim, start]
  exact List.rdropWhile_idempotent isWhite _

theorem mem_of_mem_trim {s : Text} {c : Char} (inside : c ∈ trim s) : c ∈ s := by
  have front : trim s <+: trimStart s := List.rdropWhile_prefix isWhite _
  exact (List.dropWhile_sublist isWhite).mem (front.subset inside)

/-- The separator is in none of the parts of a text. -/
theorem notMem_of_mem_splitOn {separator : Char} {s part : Text}
    (inside : part ∈ splitOn separator s) : separator ∉ part := by
  induction s generalizing part with
  | nil =>
    cases List.mem_singleton.mp inside
    exact List.not_mem_nil
  | cons c rest ih =>
    rw [splitOn] at inside
    split at inside
    · rcases List.mem_cons.mp inside with rfl | later
      · exact List.not_mem_nil
      · exact ih later
    · next other =>
      split at inside
      · cases List.mem_singleton.mp inside
        exact fun same => other (List.mem_singleton.mp same).symm
      · next first others parts =>
        rw [parts] at ih
        rcases List.mem_cons.mp inside with rfl | later
        · intro found
          rcases List.mem_cons.mp found with same | found
          · exact other same.symm
          · exact ih List.mem_cons_self found
        · exact ih (List.mem_cons_of_mem _ later)

/-- There are no commas in the items of a list. -/
theorem comma_notMem_of_mem_listItems {s item : Text} (inside : item ∈ listItems s) :
    ',' ∉ item := by
  obtain ⟨listed, -⟩ := List.mem_filter.mp inside
  obtain ⟨part, split, rfl⟩ := List.mem_map.mp listed
  exact fun found => notMem_of_mem_splitOn split (mem_of_mem_trim found)

theorem listItems_plain {entry : Text} (trimmed : trim entry = entry) (filled : entry ≠ [])
    (clean : ',' ∉ entry) : listItems entry = [entry] := by
  rw [listItems, splitOn_plain clean, List.map_singleton, trimmed]
  exact List.filter_eq_self.mpr (List.forall_mem_singleton.mpr (by simpa using filled))

/-- An item of a list is the only item of itself. -/
theorem listItems_of_mem {s item : Text} (inside : item ∈ listItems s) : listItems item = [item] := by
  have clean := comma_notMem_of_mem_listItems inside
  obtain ⟨listed, filled⟩ := List.mem_filter.mp inside
  obtain ⟨part, -, rfl⟩ := List.mem_map.mp listed
  exact listItems_plain (trim_trim part) (by simpa using filled) clean

/-- The items of entries that are joined with commas are those of each entry. -/
theorem listItems_joinWith (entries : List Text) :
    listItems (joinWith [','] entries) = entries.flatMap listItems := by
  cases entries with
  | nil => rfl
  | cons first rest =>
    rw [listItems, splitOn_joinWith_eq_flatMap ',' (List.cons_ne_nil first rest), List.map_flatMap,
      List.filter_flatMap]
    rfl

/-- Entries are the items of themselves exactly if there are no commas in them. -/
theorem flatMap_listItems_eq_self_iff {entries : List Text}
    (trimmed : ∀ entry ∈ entries, trim entry = entry ∧ entry ≠ []) :
    entries.flatMap listItems = entries ↔ ∀ entry ∈ entries, ',' ∉ entry := by
  constructor
  · intro same entry inside
    rw [← same] at inside
    obtain ⟨other, -, inside⟩ := List.mem_flatMap.mp inside
    exact comma_notMem_of_mem_listItems inside
  · intro clean
    rw [List.flatMap_congr fun entry inside =>
      listItems_plain (trimmed entry inside).1 (trimmed entry inside).2 (clean entry inside)]
    exact List.flatMap_singleton' entries

end LocaleLint.Text
