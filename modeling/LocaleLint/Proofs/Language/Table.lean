import Mathlib
import LocaleLint.Language.Catalog
import LocaleLint.Proofs.Except
import LocaleLint.Proofs.Sorting

/-!
# The table of a language file

A language file keeps one entry for each key that was inserted, and the entry is the last one. So
the file of a document gives each key the value of the last leaf with that key.
-/

namespace LocaleLint

namespace LanguageFile

/-- No two entries have the same key. -/
def Distinct (file : LanguageFile) : Prop := file.keys.Nodup

variable {file : LanguageFile} {key : Text} {entry : LanguageEntry}

/-- The places to which the index leads are those of the entries with the key. -/
theorem place?_eq_some_iff {place : Nat} : file.index.place? key = some place ↔
    ∃ entry, file.entries[place]? = some entry ∧ entry.key = key :=
  (file.leads key place).trans Option.map_eq_some_iff

theorem distinct (file : LanguageFile) : file.Distinct := by
  rw [Distinct, keys, List.nodup_iff_injective_get]
  intro a b same
  have here (place : Fin (file.entries.map (·.key)).length) :
      file.index.place? ((file.entries.map (·.key)).get place) = some place.1 := by
    rw [file.leads, ← List.getElem?_map]
    exact List.getElem?_eq_getElem place.2
  exact Fin.ext (Option.some.inj ((here a).symm.trans (same ▸ here b)))

theorem get?_eq_some_iff : file.get? key = some entry ↔ entry ∈ file.entries ∧ entry.key = key := by
  rw [get?]
  constructor
  · intro found
    split at found
    · next place led =>
      cases found
      obtain ⟨entry, here, named⟩ := place?_eq_some_iff.mp led
      obtain ⟨within, rfl⟩ := List.getElem?_eq_some_iff.mp here
      exact ⟨List.getElem_mem within, named⟩
    · cases found
  · rintro ⟨inside, named⟩
    obtain ⟨place, here⟩ := List.mem_iff_getElem?.mp inside
    have led := place?_eq_some_iff.mpr ⟨entry, here, named⟩
    split
    · next other found =>
      cases found.symm.trans led
      obtain ⟨within, rfl⟩ := List.getElem?_eq_some_iff.mp here
      rfl
    · next none => cases none.symm.trans led

theorem declares_eq_isSome (file : LanguageFile) (key : Text) :
    file.declares key = (file.get? key).isSome := by
  rw [declares, get?]
  split
  · next led => simp [led]
  · next none => simp [none]

theorem declares_iff_mem : file.declares key = true ↔ key ∈ file.keys := by
  rw [declares_eq_isSome, Option.isSome_iff_exists, keys, List.mem_map]
  exact exists_congr fun entry => get?_eq_some_iff

@[simp]
theorem path_insert (file : LanguageFile) (entry : LanguageEntry) :
    (file.insert entry).path = file.path := by
  rw [insert]
  split <;> rfl

@[simp]
theorem name_insert (file : LanguageFile) (entry : LanguageEntry) :
    (file.insert entry).name = file.name := by
  rw [insert]
  split <;> rfl

/-- What insertion makes of the entries: the new one takes the place of the entry with its key, or
it comes last. -/
theorem entries_insert (file : LanguageFile) (entry : LanguageEntry) :
    (∃ place, file.index.place? entry.key = some place ∧
      (file.insert entry).entries = file.entries.set place entry) ∨
    file.index.place? entry.key = none ∧
      (file.insert entry).entries = file.entries ++ [entry] := by
  rw [insert]
  split
  · next place found => exact .inl ⟨place, found, rfl⟩
  · next fresh => exact .inr ⟨fresh, rfl⟩

/-- A key that is declared again keeps its place, and a new one comes last. -/
theorem keys_insert (file : LanguageFile) (entry : LanguageEntry) :
    (file.insert entry).keys =
      if entry.key ∈ file.keys then file.keys else file.keys ++ [entry.key] := by
  have declared := @declares_iff_mem file entry.key
  rw [declares] at declared
  rw [keys]
  rcases entries_insert file entry with ⟨place, found, inserted⟩ | ⟨fresh, inserted⟩
  · have led := (file.leads entry.key place).mp found
    rw [if_pos (declared.mp (by rw [found]; rfl)), inserted, List.map_set]
    rw [← List.getElem?_map] at led
    obtain ⟨within, named⟩ := List.getElem?_eq_some_iff.mp led
    rw [← named, List.set_getElem_self]
    rfl
  · rw [if_neg (by simpa [fresh] using declared), inserted]
    exact List.map_append

/-- An inserted entry takes the place of the one with its key; all others stay. -/
theorem mem_insert_iff {e : LanguageEntry} : e ∈ (file.insert entry).entries ↔
    e = entry ∨ e ∈ file.entries ∧ e.key ≠ entry.key := by
  rcases entries_insert file entry with ⟨place, found, inserted⟩ | ⟨fresh, inserted⟩
  · have within := file.leads.lt_length found
    have elsewhere {other : Nat} (here : file.entries[other]? = some e) :
        e.key ≠ entry.key ↔ place ≠ other := by
      refine not_congr ⟨fun same => ?_, ?_⟩
      · have led := place?_eq_some_iff.mpr ⟨e, here, same⟩
        exact Option.some.inj (found.symm.trans led)
      · rintro rfl
        obtain ⟨old, there, named⟩ := place?_eq_some_iff.mp found
        rwa [Option.some.inj (here.symm.trans there)]
    rw [inserted, List.mem_iff_getElem?]
    constructor
    · rintro ⟨other, here⟩
      rw [List.getElem?_set] at here
      split_ifs at here
      · exact .inl (Option.some.inj here).symm
      · next apart => exact .inr ⟨List.mem_of_getElem? here, (elsewhere here).mpr apart⟩
    · rintro (rfl | ⟨inside, apart⟩)
      · exact ⟨place, by rw [List.getElem?_set_self within]⟩
      · obtain ⟨other, here⟩ := List.mem_iff_getElem?.mp inside
        exact ⟨other, by rw [List.getElem?_set_ne ((elsewhere here).mp apart), here]⟩
  · have new (inside : e ∈ file.entries) : e.key ≠ entry.key := by
      intro same
      obtain ⟨place, here⟩ := List.mem_iff_getElem?.mp inside
      cases fresh.symm.trans (place?_eq_some_iff.mpr ⟨e, here, same⟩)
    rw [inserted, List.mem_append, List.mem_singleton, or_comm]
    exact or_congr_right ⟨fun inside => ⟨inside, new inside⟩, And.left⟩

/-- Insertion changes the entry of its own key only. -/
theorem get?_insert (file : LanguageFile) (entry : LanguageEntry) (key : Text) :
    (file.insert entry).get? key = if entry.key = key then some entry else file.get? key := by
  refine Option.ext fun e => ?_
  rw [get?_eq_some_iff, mem_insert_iff]
  split
  · next same =>
    subst same
    rw [Option.some_inj, eq_comm (a := entry)]
    exact ⟨fun ⟨either, named⟩ => either.resolve_right fun old => old.2 named,
      fun new => ⟨.inl new, congrArg _ new⟩⟩
  · next other =>
    rw [get?_eq_some_iff]
    constructor
    · rintro ⟨rfl | ⟨inside, -⟩, named⟩
      · exact absurd named other
      · exact ⟨inside, named⟩
    · rintro ⟨inside, rfl⟩
      exact ⟨.inr ⟨inside, Ne.symm other⟩, rfl⟩

/-- At most one entry of a file has a key. -/
theorem filter_entries (distinct : file.Distinct) (key : Text) :
    file.entries.filter (·.key = key) = (file.get? key).toList := by
  have same : (file.entries.filter (·.key = key)).Perm (file.get? key).toList := by
    refine (List.perm_ext_iff_of_nodup (distinct.of_map.filter _) ?_).mpr fun entry => ?_
    · cases file.get? key <;> simp
    · simp [get?_eq_some_iff]
  cases found : file.get? key with
  | none => simpa [found] using same
  | some entry => simpa [found] using same

/-- The file that results if entries are inserted one after another. -/
def ofEntries (path name : Text) (inserted : List LanguageEntry) : LanguageFile :=
  inserted.foldl insert (empty path name)

section

variable {path name : Text}

theorem ofEntries_concat (inserted : List LanguageEntry) (entry : LanguageEntry) :
    ofEntries path name (inserted ++ [entry]) = (ofEntries path name inserted).insert entry := by
  rw [ofEntries, List.foldl_append]
  rfl

theorem path_ofEntries (inserted : List LanguageEntry) :
    (ofEntries path name inserted).path = path := by
  induction inserted using List.reverseRecOn with
  | nil => rfl
  | append_singleton inserted entry ih => rw [ofEntries_concat, path_insert, ih]

theorem name_ofEntries (inserted : List LanguageEntry) :
    (ofEntries path name inserted).name = name := by
  induction inserted using List.reverseRecOn with
  | nil => rfl
  | append_singleton inserted entry ih => rw [ofEntries_concat, name_insert, ih]

/-- The keys are in the order in which they were first inserted. -/
theorem keys_ofEntries (inserted : List LanguageEntry) :
    (ofEntries path name inserted).keys = (inserted.map (·.key)).eraseDups := by
  induction inserted using List.reverseRecOn with
  | nil => rfl
  | append_singleton inserted entry ih =>
    rw [ofEntries_concat, keys_insert, ih, List.map_append, List.map_singleton,
      eraseDups_append_singleton]
    simp only [List.mem_eraseDups]

/-- The entry of a key is the last one that was inserted. -/
theorem get?_ofEntries (inserted : List LanguageEntry) (key : Text) :
    (ofEntries path name inserted).get? key = (inserted.filter (·.key = key)).getLast? := by
  induction inserted using List.reverseRecOn with
  | nil => rfl
  | append_singleton inserted entry ih =>
    rw [ofEntries_concat, get?_insert, ih, List.filter_append]
    by_cases same : entry.key = key <;> simp [same]

/-- A file to which entries are added one after another is a map that keeps the order of insertion.
Its keys are distinct and in the order in which they were first inserted; its index leads from these
keys to the places of their entries and nowhere else; the entry of a key is the last one that was
inserted with it; and no insertion changes the entry of another key. -/
theorem ofEntries_keeps_order (path name : Text) (inserted : List LanguageEntry) :
    let file := ofEntries path name inserted
    (file.keys.Nodup ∧ (∀ key, key ∈ file.keys ↔ key ∈ inserted.map (·.key)) ∧
      file.keys.Pairwise fun a b =>
        (inserted.map (·.key)).idxOf a < (inserted.map (·.key)).idxOf b) ∧
      (∀ key place, file.index.place? key = some place ↔
        ∃ within : place < file.entries.length,
          (file.entries.get ⟨place, within⟩).key = key) ∧
      (∀ key, file.get? key = (inserted.filter (·.key = key)).getLast?) ∧
      (∀ key, file.declares key = true ↔ ∃ entry ∈ inserted, entry.key = key) ∧
      ∀ entry key, entry.key ≠ key → (file.insert entry).get? key = file.get? key := by
  intro file
  have keys : file.keys = (inserted.map (·.key)).eraseDups := keys_ofEntries inserted
  refine ⟨⟨file.distinct, fun key => ?_, ?_⟩, fun key place => ?_, get?_ofEntries inserted,
    fun key => ?_, fun entry key other => ?_⟩
  · rw [keys, List.mem_eraseDups]
  · rw [keys]
    exact pairwise_eraseDups _
  · rw [place?_eq_some_iff]
    constructor
    · rintro ⟨entry, here, named⟩
      obtain ⟨within, rfl⟩ := List.getElem?_eq_some_iff.mp here
      exact ⟨within, named⟩
    · rintro ⟨within, named⟩
      exact ⟨_, List.getElem?_eq_getElem within, named⟩
  · rw [declares_iff_mem, keys, List.mem_eraseDups, List.mem_map]
  · rw [get?_insert, if_neg other]

end

end LanguageFile

namespace Leaf

/-- The value that leaves give a key: that of the last leaf with the key. -/
def valueIn? (key : Text) (leaves : List Leaf) : Option Text :=
  (leaves.reverse.find? (·.key = key)).map (·.value)

theorem valueIn?_append_singleton (key : Text) (leaves : List Leaf) (leaf : Leaf) :
    valueIn? key (leaves ++ [leaf]) =
      if leaf.key = key then some leaf.value else valueIn? key leaves := by
  by_cases same : leaf.key = key
  · simp [valueIn?, same]
  · simp [valueIn?, same]

end Leaf

/-- The file that leaves make of another one. -/
def LanguageFile.ofLeaves (line : Text → Nat) (file : LanguageFile) (leaves : List Leaf) :
    LanguageFile :=
  leaves.foldl (fun file leaf => file.insert ⟨leaf.key, leaf.value, line leaf.key⟩) file

namespace LanguageFile

variable {line : Text → Nat} {path name : Text}

/-- The file of leaves has their entries inserted one after another. -/
theorem ofLeaves_eq (leaves : List Leaf) : ofLeaves line (empty path name) leaves =
    ofEntries path name (leaves.map fun leaf => ⟨leaf.key, leaf.value, line leaf.key⟩) :=
  List.foldl_map.symm

/-- The keys of leaves are in the order of their first leaves, and each has its last value. -/
theorem ofLeaves_spec (leaves : List Leaf) :
    let file := ofLeaves line (empty path name) leaves
    file.path = path ∧ file.name = name ∧ file.Distinct ∧
      (∀ key, key ∈ file.keys ↔ key ∈ leaves.map (·.key)) ∧
      ∀ key, (file.get? key).map (·.value) = Leaf.valueIn? key leaves := by
  dsimp only
  rw [ofLeaves_eq]
  refine ⟨path_ofEntries _, name_ofEntries _, LanguageFile.distinct _, fun key => ?_, fun key => ?_⟩
  · rw [keys_ofEntries, List.mem_eraseDups, List.map_map]
    rfl
  · rw [get?_ofEntries, List.getLast?_eq_head?_reverse, ← List.filter_reverse, List.head?_filter,
      ← List.map_reverse, List.find?_map, Option.map_map]
    rfl

theorem line_ofLeaves {line : Text → Nat} {path name : Text} {leaves : List Leaf} :
    ∀ entry ∈ (ofLeaves line (empty path name) leaves).entries, entry.line = line entry.key := by
  induction leaves using List.reverseRecOn with
  | nil => exact nofun
  | append_singleton leaves leaf ih =>
    intro entry inside
    rw [ofLeaves, List.foldl_append] at inside
    rcases mem_insert_iff.mp inside with rfl | ⟨before, -⟩
    · rfl
    · exact ih entry before

/-- The file of a document has the path and the stem of the document, and gives each key the value
of the last leaf with that key. -/
theorem ofDocument_eq_ok_iff {document : Document} {file : LanguageFile} :
    ofDocument document = .ok file ↔ ∃ value, document.json = .ok value ∧
      file = ofLeaves (NameLine.lineOf document.content (LineIndex.ofText document.content))
        (empty document.path document.stem) (Leaf.all value) := by
  unfold ofDocument
  rw [bind_eq_ok]
  constructor
  · rintro ⟨value, read, made⟩
    cases made
    exact ⟨value, read, rfl⟩
  · rintro ⟨value, read, rfl⟩
    exact ⟨value, read, rfl⟩

end LanguageFile

end LocaleLint
