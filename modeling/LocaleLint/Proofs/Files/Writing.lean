import Mathlib
import LocaleLint.Files.Tree
import LocaleLint.Proofs.Except

/-!
# What writing changes

A text is written only to a file that is not locked. Where there is such a file already, nothing
changes but its content, so every path leads to where it has led, and the same files are locked.
-/

namespace LocaleLint

namespace FileEntry

/-- An entry apart from the content that can be overwritten. -/
def frame : FileEntry → FileEntry
  | file _ => file none
  | entry => entry

theorem frame_eq_directory_iff {entry : FileEntry} :
    entry.frame = .directory ↔ entry = .directory := by
  cases entry <;> simp [frame]

theorem frame_eq_locked_iff {entry : FileEntry} {content : Option Text} :
    entry.frame = .locked content ↔ entry = .locked content := by
  cases entry <;> simp [frame]

end FileEntry

namespace FileTree

variable {tree other : FileTree} {directory : Address} {path : Text}

/-- Trees that differ in the contents of files that are not locked, and in nothing else. -/
def SameFrame (tree other : FileTree) : Prop :=
  ∀ address, (tree.entry? address).map FileEntry.frame =
    (other.entry? address).map FileEntry.frame

def HasFile (tree : FileTree) (directory : Address) (path : Text) : Prop :=
  ∃ entry, tree.find? directory path = some entry ∧ entry ≠ .directory

def IsLocked (tree : FileTree) (directory : Address) (path : Text) : Prop :=
  ∃ content, tree.find? directory path = some (.locked content)

namespace SameFrame

theorem refl (tree : FileTree) : tree.SameFrame tree := fun _ => rfl

theorem trans {last : FileTree} (first : tree.SameFrame other) (second : other.SameFrame last) :
    tree.SameFrame last := fun address => (first address).trans (second address)

/-- A step does not depend on the contents of files. -/
theorem stepTo (same : tree.SameFrame other) : tree.stepTo = other.stepTo := by
  funext address part
  have framed := same address
  unfold FileTree.stepTo
  cases here : tree.entry? address with
  | none =>
    rw [here, Option.map_none, eq_comm, Option.map_eq_none_iff] at framed
    rw [framed]
  | some entry =>
    rw [here, Option.map_some, eq_comm, Option.map_eq_some_iff] at framed
    obtain ⟨entry', there, framed⟩ := framed
    rw [there]
    cases entry <;> cases entry' <;> first | rfl | cases framed

theorem locate (same : tree.SameFrame other) : tree.locate = other.locate := by
  funext directory path
  unfold FileTree.locate
  rw [same.stepTo]

theorem find? (same : tree.SameFrame other) (directory : Address) (path : Text) :
    (tree.find? directory path).map FileEntry.frame =
      (other.find? directory path).map FileEntry.frame := by
  unfold FileTree.find?
  rw [same.locate]
  cases other.locate directory path with
  | error fault => rfl
  | ok address => exact same address

theorem hasFile_iff (same : tree.SameFrame other) :
    tree.HasFile directory path ↔ other.HasFile directory path := by
  have framed : ∀ tree : FileTree, tree.HasFile directory path ↔
      ∃ frame, (tree.find? directory path).map FileEntry.frame = some frame ∧
        frame ≠ .directory := by
    intro tree
    simp [HasFile, FileEntry.frame_eq_directory_iff, and_comm]
  rw [framed, framed, same.find?]

theorem isLocked_iff (same : tree.SameFrame other) :
    tree.IsLocked directory path ↔ other.IsLocked directory path := by
  have framed : ∀ tree : FileTree, tree.IsLocked directory path ↔
      ∃ content, (tree.find? directory path).map FileEntry.frame = some (.locked content) := by
    intro tree
    simp [IsLocked, FileEntry.frame_eq_locked_iff]
  rw [framed, framed, same.find?]

end SameFrame

theorem lookup_setEntry (address other : Address) (entry : FileEntry)
    (entries : List (Address × FileEntry)) :
    (setEntry address entry entries).lookup other =
      if other = address then some entry else entries.lookup other := by
  have first : ∀ (here : Address) (old : FileEntry) rest, ((here, old) :: rest).lookup other =
      if other = here then some old else rest.lookup other := by
    intro here old rest
    by_cases same : other = here
    · simp [same]
    · simp [List.lookup_cons, beq_false_of_ne same, same]
  induction entries with
  | nil => exact first address entry []
  | cons here rest ih =>
    obtain ⟨here, old⟩ := here
    by_cases placed : here = address
    · rw [setEntry, if_pos placed, first, first, placed]
      split <;> rfl
    · rw [setEntry, if_neg placed, first, first, ih]
      by_cases found : other = here
      · rw [if_pos found, if_pos found, if_neg (found ▸ placed)]
      · rw [if_neg found, if_neg found]

/-- Other entries than the one that is put in stay. -/
theorem entry?_set {address : Address} (below : address ≠ []) (entry : FileEntry)
    (other : Address) : entry? (tree.set address entry) other =
      if other = address then some entry else tree.entry? other := by
  cases other with
  | nil => rw [if_neg below.symm, entry?, entry?]
  | cons name names => exact lookup_setEntry address (name :: names) entry tree.entries

/-- What a path leads to is what is at the address that it leads to. -/
theorem find?_eq_some_iff {entry : FileEntry} :
    tree.find? directory path = some entry ↔
      ∃ address, tree.locate directory path = .ok address ∧ tree.entry? address = some entry := by
  unfold FileTree.find?
  cases tree.locate directory path <;> simp

theorem hasFile_of_read {content : Text} (read : tree.read directory path = .ok content) :
    tree.HasFile directory path := by
  obtain ⟨address, located, found⟩ := bind_eq_ok.mp read
  have leads : ∀ {entry}, tree.entry? address = some entry →
      tree.find? directory path = some entry :=
    fun here => find?_eq_some_iff.mpr ⟨address, located, here⟩
  split at found
  · cases found
  · cases found
  · cases found
  · cases found
  · next here => exact ⟨_, leads here, nofun⟩
  · next here => exact ⟨_, leads here, nofun⟩

/-- A locked file is not written. -/
theorem write_of_isLocked (locked : tree.IsLocked directory path) (content : Text) :
    tree.write directory path content = .error .denied := by
  obtain ⟨old, found⟩ := locked
  obtain ⟨address, located, here⟩ := find?_eq_some_iff.mp found
  simp [FileTree.write, located, here, bind, Except.bind]

/-- A file that is not locked is written, and nothing else changes. -/
theorem exists_write (file : tree.HasFile directory path) (free : ¬ tree.IsLocked directory path)
    (content : Text) :
    ∃ after, tree.write directory path content = .ok after ∧ after.SameFrame tree := by
  obtain ⟨old, found, notDirectory⟩ := file
  obtain ⟨address, located, here⟩ := find?_eq_some_iff.mp found
  -- The root is a directory that no entry stands for, so it cannot be put in.
  have below : address ≠ [] := by
    rintro rfl
    cases here
    exact notDirectory rfl
  cases old with
  | directory => exact absurd rfl notDirectory
  | locked old => exact absurd ⟨old, found⟩ free
  | file old =>
    refine ⟨tree.set address (.file (some content)), ?_, fun other => ?_⟩
    · exact bind_eq_ok.mpr ⟨address, located, by rw [here]⟩
    · rw [entry?_set below]
      split
      · next same =>
        rw [same, here]
        rfl
      · rfl

end FileTree

end LocaleLint
