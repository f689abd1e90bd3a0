import LocaleLint.Text.Basic

/-!
# Language files

The keys that a file declares, each with its value and its line. A key that is declared again keeps
its place and takes the new value and line. An index leads from the keys to the places of their
entries; a file carries the proof that it leads to all entries and nowhere else.
-/

namespace LocaleLint

/-- A key with its value in one language, and the line that declares it. -/
structure LanguageEntry where
  key : Text
  value : Text
  line : Nat
deriving Repr, DecidableEq

/-- Keys with the places of their entries. -/
abbrev KeyIndex := List (Text × Nat)

namespace KeyIndex

variable {index : KeyIndex} {entries : List LanguageEntry} {entry : LanguageEntry}

/-- The place of the entry of a key. -/
def place? (index : KeyIndex) (key : Text) : Option Nat := index.lookup key

/-- Whether an index leads from the key of each entry to the entry, and from no other key
anywhere. -/
def LeadsTo (index : KeyIndex) (entries : List LanguageEntry) : Prop :=
  ∀ key place, index.place? key = some place ↔ (entries[place]?).map (·.key) = some key

theorem leadsTo_nil : LeadsTo [] [] := fun key place => by simp [place?]

/-- The place of a key is a place of the entries. -/
theorem LeadsTo.lt_length (leads : index.LeadsTo entries) {key : Text} {place : Nat}
    (found : index.place? key = some place) : place < entries.length := by
  obtain ⟨entry, here, -⟩ := Option.map_eq_some_iff.mp ((leads key place).mp found)
  exact (List.getElem?_eq_some_iff.mp here).1

/-- An entry may take the place of the one with its key. -/
theorem LeadsTo.set (leads : index.LeadsTo entries) {place : Nat}
    (found : index.place? entry.key = some place) : index.LeadsTo (entries.set place entry) := by
  have keys (other : Nat) :
      ((entries.set place entry)[other]?).map (·.key) = (entries[other]?).map (·.key) := by
    rw [List.getElem?_set]
    split
    · next same =>
      subst same
      rw [if_pos (leads.lt_length found), (leads _ _).mp found, Option.map_some]
    · rfl
  intro key other
  rw [leads key other, keys other]

theorem place?_cons (index : KeyIndex) (first key : Text) (place : Nat) :
    place? ((first, place) :: index) key =
      if first = key then some place else index.place? key := by
  rw [place?, List.lookup_cons]
  by_cases same : first = key
  · simp [same]
  · have other : (key == first) = false := by simpa using Ne.symm same
    simp [same, other, place?]

/-- An entry with a new key may follow the others. -/
theorem LeadsTo.append (leads : index.LeadsTo entries) (fresh : index.place? entry.key = none) :
    LeadsTo ((entry.key, entries.length) :: index) (entries ++ [entry]) := by
  intro key place
  have old := leads key place
  rw [place?_cons]
  rcases Nat.lt_trichotomy place entries.length with before | rfl | behind
  · rw [List.getElem?_append_left before, ← old]
    by_cases same : entry.key = key
    · subst same
      simp [fresh, Nat.ne_of_gt before]
    · rw [if_neg same]
  · rw [List.getElem?_eq_none (Nat.le_refl _)] at old
    by_cases same : entry.key = key
    · simp [same]
    · simp [same, old]
  · have beyond : entries.length + 1 ≤ place := behind
    rw [List.getElem?_eq_none (Nat.le_of_lt behind)] at old
    rw [List.getElem?_eq_none (by simpa using beyond)]
    by_cases same : entry.key = key
    · simp [same, Nat.ne_of_lt behind]
    · simp [same, old]

end KeyIndex

/-- A language file: its path, the name of the language, its entries in order, and the places of
their keys. -/
structure LanguageFile where
  path : Text
  name : Text
  entries : List LanguageEntry
  index : KeyIndex
  leads : index.LeadsTo entries
deriving Repr, DecidableEq

namespace LanguageFile

/-- A language file without entries. -/
def empty (path name : Text) : LanguageFile := ⟨path, name, [], [], KeyIndex.leadsTo_nil⟩

/-- Declares a key: puts an entry in the place of the one with its key, or at the end. -/
def insert (file : LanguageFile) (entry : LanguageEntry) : LanguageFile :=
  match found : file.index.place? entry.key with
  | some place =>
    { file with
      entries := file.entries.set place entry
      leads := file.leads.set found }
  | none =>
    { file with
      entries := file.entries ++ [entry]
      index := (entry.key, file.entries.length) :: file.index
      leads := file.leads.append found }

def get? (file : LanguageFile) (key : Text) : Option LanguageEntry :=
  match found : file.index.place? key with
  | some place => some (file.entries.get ⟨place, file.leads.lt_length found⟩)
  | none => none

def declares (file : LanguageFile) (key : Text) : Bool := (file.index.place? key).isSome

/-- The declared keys in order. -/
def keys (file : LanguageFile) : List Text := file.entries.map (·.key)

end LanguageFile

end LocaleLint
