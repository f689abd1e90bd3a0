import Mathlib
import LocaleLint.Proofs.Files.Resolve

/-!
# Where paths lead

The steps of a path lead to an address, from the root or from the working directory. What a path is
located at is its address, and all that a pattern finds lies at the address of the path on which it
has been reached.
-/

namespace LocaleLint

/-- Where a step leads to. -/
def PathStep.follow (address : Address) : PathStep → Address
  | root => []
  | here => address
  | up => address.dropLast
  | name n => address ++ [n]

namespace Path

/-- The address that a path leads to from a directory. -/
def addressFrom (directory : Address) (path : Path) : Address := path.foldl PathStep.follow directory

variable {directory : Address} {path : Path}

theorem addressFrom_append (s t : Path) :
    (s ++ t).addressFrom directory = t.addressFrom (s.addressFrom directory) := List.foldl_append

theorem addressFrom_names (names : List Text) :
    addressFrom directory (names.map .name) = directory ++ names := by
  induction names generalizing directory with
  | nil => exact (List.append_nil _).symm
  | cons n names ih => exact ih.trans (List.append_assoc _ _ _)

theorem addressFrom_normalize : path.normalize.addressFrom directory = path.addressFrom directory := by
  induction path generalizing directory with
  | nil => rfl
  | cons step path ih =>
    cases step <;> exact ih

/-- A path of names and steps upward, as it goes on behind its start. -/
def IsInner (steps : Path) : Prop := ∀ step ∈ steps, step ≠ .root ∧ step ≠ .here

theorem isInner_names (names : List Text) : IsInner (names.map .name) := by
  intro step inside
  obtain ⟨n, -, rfl⟩ := List.mem_map.mp inside
  exact ⟨nofun, nofun⟩

theorem isInner_parts (parts : List Text) : IsInner (parts.flatMap PathStep.ofPart) := by
  intro step inside
  obtain ⟨part, -, inside⟩ := List.mem_flatMap.mp inside
  unfold PathStep.ofPart at inside
  split at inside
  · cases inside
  · split at inside <;> cases List.mem_singleton.mp inside <;> exact ⟨nofun, nofun⟩

theorem IsInner.normalize_eq {steps : Path} (inner : steps.IsInner) : steps.normalize = steps :=
  List.filter_eq_self.mpr fun step inside => by simpa using (inner step inside).2

/-- A path goes on from its start by names and upward only. -/
def Walks (path : Path) : Prop :=
  ∃ start steps, path = start ++ steps ∧ start ∈ [[], [PathStep.root], [.here]] ∧ steps.IsInner

theorem Walks.append (walks : path.Walks) {steps : Path} (inner : steps.IsInner) :
    (path ++ steps).Walks := by
  obtain ⟨start, front, rfl, starts, walked⟩ := walks
  exact ⟨start, front ++ steps, List.append_assoc _ _ _, starts,
    List.forall_mem_append.mpr ⟨walked, inner⟩⟩

theorem Walks.normalize (walks : path.Walks) : path.normalize.Walks := by
  obtain ⟨start, steps, rfl, starts, inner⟩ := walks
  refine ⟨start.normalize, steps, ?_, ?_, inner⟩
  · rw [normalize_append, inner.normalize_eq]
  · simp only [List.mem_cons, List.not_mem_nil, or_false] at starts
    rcases starts with rfl | rfl | rfl <;> decide

theorem walks_ofText (text : Text) : (ofText text).Walks := by
  have walk (start : Path) (starts : start ∈ [[], [PathStep.root], [.here]]) :
      (start ++ (Text.splitOn '/' text).flatMap PathStep.ofPart).Walks :=
    ⟨start, _, rfl, starts, isInner_parts _⟩
  unfold ofText
  split
  · exact walk [.root] (by decide)
  · exact walk [.here] (by decide)
  · exact walk [.here] (by decide)
  · exact walk [] (by decide)

theorem here_notMem_normalize (path : Path) : PathStep.here ∉ path.normalize := by
  simp [Path.normalize]

/-- A path without dots and steps upward is made of names behind the root, or of names alone. -/
theorem Walks.eq_names (walks : path.Walks) (clean : .here ∉ path) (down : .up ∉ path) :
    ∃ names : List Text, path = names.map .name ∨ path = .root :: names.map .name := by
  obtain ⟨start, steps, rfl, starts, inner⟩ := walks
  have named : steps ∈ Set.range (List.map PathStep.name) := by
    rw [Set.range_list_map]
    intro step inside
    obtain ⟨notRoot, notHere⟩ := inner step inside
    cases step with
    | root => exact absurd rfl notRoot
    | here => exact absurd rfl notHere
    | up => exact absurd (List.mem_append_right _ inside) down
    | name n => exact ⟨n, rfl⟩
  obtain ⟨names, rfl⟩ := named
  refine ⟨names, ?_⟩
  simp only [List.mem_cons, List.not_mem_nil, or_false] at starts
  rcases starts with rfl | rfl | rfl
  · exact .inl rfl
  · exact .inr rfl
  · exact absurd (List.mem_append_left _ List.mem_cons_self) clean

end Path

namespace FileTree

variable {tree : FileTree} {address next : Address}

theorem follow_of_stepTo {part : Text} (stepped : tree.stepTo address part = .ok next) :
    next = (PathStep.ofPart part).foldl PathStep.follow address := by
  unfold stepTo at stepped
  unfold PathStep.ofPart
  split at stepped
  · cases stepped
  · split at stepped
    · next dot =>
      cases stepped
      rw [if_pos dot]
      rfl
    · next other =>
      rw [if_neg other]
      split at stepped
      · next up =>
        cases stepped
        rw [if_pos up]
        rfl
      · next name =>
        cases stepped
        rw [if_neg name]
        rfl
  · cases stepped

theorem follow_of_steps {parts : List Text} (stepped : parts.foldlM tree.stepTo address = .ok next) :
    next = (parts.flatMap PathStep.ofPart).foldl PathStep.follow address := by
  induction parts generalizing address with
  | nil =>
    cases stepped
    rfl
  | cons part parts ih =>
    rw [List.foldlM_cons] at stepped
    obtain ⟨between, first, later⟩ := bind_eq_ok.mp stepped
    rw [ih later, follow_of_stepTo first, List.flatMap_cons, List.foldl_append]

/-- A path is located at its address. -/
theorem addressFrom_of_locate {directory : Address} {path : Text}
    (located : tree.locate directory path = .ok address) :
    address = (Path.ofText path).addressFrom directory := by
  unfold locate at located
  split at located
  · cases located
  · next rest => exact (follow_of_steps located).trans rfl
  · next relative filled =>
    rw [follow_of_steps located, Path.addressFrom, Path.ofText.eq_def]
    split
    · next rest => exact absurd rfl (filled rest)
    · rfl
    · rfl
    · rfl

end FileTree

/-- What has been found lies at the address of its path, which goes on by names and upward. -/
structure Found.Reached (disk : Disk) (found : Found) : Prop where
  address : found.address = found.path.addressFrom disk.directory
  walks : found.path.Walks

namespace Found.Reached

variable {disk : Disk} {here : Found}

theorem go_on {steps : Path} {address : Address} (reached : here.Reached disk)
    (inner : steps.IsInner) (leads : address = steps.foldl PathStep.follow here.address) :
    Reached disk ⟨(if here.path = [.here] then [] else here.path) ++ steps, address⟩ := by
  obtain ⟨own, walks⟩ := reached
  rw [own] at leads
  split
  · next dot =>
    rw [dot] at leads
    exact ⟨leads, ⟨[], steps, rfl, by decide, inner⟩⟩
  · exact ⟨leads.trans (Path.addressFrom_append _ _).symm, walks.append inner⟩

theorem down (reached : here.Reached disk) (names : List Text) : (here.down names).Reached disk :=
  reached.go_on (Path.isInner_names names) (Path.addressFrom_names names).symm

theorem up (reached : here.Reached disk) : here.up.Reached disk :=
  reached.go_on (List.forall_mem_singleton.mpr ⟨nofun, nofun⟩) rfl

theorem below (reached : here.Reached disk) : ∀ found ∈ disk.below here, found.Reached disk := by
  intro found inside
  unfold Disk.below at inside
  split at inside
  · cases inside
  · obtain ⟨⟨names, entry⟩, -, rfl⟩ := List.mem_map.mp inside
    exact reached.down names

theorem stepTo? (reached : here.Reached disk) {part : Text} {next : Found}
    (stepped : disk.stepTo? here part = some next) : next.Reached disk := by
  unfold Disk.stepTo? at stepped
  split at stepped
  · cases stepped
  split at stepped
  · cases stepped
    exact reached
  split at stepped
  · cases stepped
    exact reached.up
  split at stepped
  · split at stepped
    · cases stepped
    · cases stepped
      exact reached
  · dsimp only at stepped
    split at stepped
    · cases stepped
      exact reached.down [part]
    · cases stepped

theorem stepsTo (reached : here.Reached disk) {part : Glob} :
    ∀ found ∈ disk.stepsTo here part, found.Reached disk := by
  intro found inside
  unfold Disk.stepsTo at inside
  split at inside
  · cases inside
  rcases List.mem_append.mp inside with inside | inside
  · rcases List.mem_append.mp inside with inside | inside
    · obtain ⟨⟨name, entry⟩, -, rfl⟩ := List.mem_map.mp inside
      exact reached.down [name]
    · split at inside
      · rw [List.mem_singleton.mp inside]
        exact reached
      · cases inside
  · split at inside
    · rw [List.mem_singleton.mp inside]
      exact reached.up
    · cases inside

/-- A part of a pattern that stands for one step keeps what the parts behind it keep. -/
theorem matchesFrom_cons (reached : here.Reached disk) {part : Glob} {parts : List Glob}
    (single : part.isAnyParts = false)
    (later : ∀ here : Found, here.Reached disk →
      ∀ found ∈ disk.matchesFrom parts here, found.Reached disk) :
    ∀ found ∈ disk.matchesFrom (part :: parts) here, found.Reached disk := by
  intro found inside
  rw [Disk.matchesFrom.eq_def] at inside
  simp only [single, Bool.false_eq_true, if_false] at inside
  split at inside
  · next name literal =>
    cases stepped : disk.stepTo? here name with
    | none => simp [stepped] at inside
    | some next =>
      rw [stepped] at inside
      exact later next (reached.stepTo? stepped) found inside
  · obtain ⟨between, first, inside⟩ := List.mem_flatMap.mp inside
    exact later between (reached.stepsTo between first) found inside

/-- All that a pattern matches lies where its path leads to. -/
theorem matchesFrom (reached : here.Reached disk) {parts : List Glob} :
    ∀ found ∈ disk.matchesFrom parts here, found.Reached disk := by
  induction parts using List.twoStepInduction generalizing here with
  | nil => exact List.forall_mem_singleton.mpr reached
  | singleton part =>
    cases any : part.isAnyParts with
    | false =>
      exact reached.matchesFrom_cons any fun here reached => List.forall_mem_singleton.mpr reached
    | true =>
      intro found inside
      rw [Disk.matchesFrom.eq_def] at inside
      simp only [any, if_true] at inside
      exact reached.below found (List.mem_of_mem_filter inside)
  | cons_cons part next rest ihRest ihNext =>
    cases any : part.isAnyParts with
    | false => exact reached.matchesFrom_cons any fun here reached => ihNext next reached
    | true =>
      intro found inside
      rw [Disk.matchesFrom.eq_def] at inside
      simp only [any, if_true] at inside
      split at inside
      · exact ihNext next reached found inside
      · obtain ⟨between, first, inside⟩ := List.mem_flatMap.mp inside
        exact ihRest (reached.below between (List.mem_of_mem_filter first)) found inside

end Found.Reached

theorem FileTree.exists_listed {tree : FileTree} {address : Address} (file : tree.IsFile address) :
    ∃ entry, (address, entry) ∈ tree.entries ∧ entry ≠ .directory := by
  obtain ⟨entry, here, file⟩ := file
  cases address with
  | nil =>
    cases here
    exact absurd rfl file
  | cons name names =>
    obtain ⟨before, after, split, -⟩ := List.lookup_eq_some_iff.mp here
    exact ⟨entry, split ▸ List.mem_append_right _ List.mem_cons_self, file⟩

namespace Disk

variable {disk : Disk} {extensions : List Text} {alternative : Text} {root : Found} {path : Path}

theorem IsRoot.reached (is : disk.IsRoot alternative root) : root.Reached disk := by
  cases is with
  | written plain leads there =>
    exact ⟨FileTree.addressFrom_of_locate leads, Path.walks_ofText alternative⟩
  | matched wild reads inside =>
    have start : (disk.startOf alternative).1.Reached disk := by
      unfold startOf
      split
      · exact ⟨rfl, [.root], [], rfl, by decide, List.forall_mem_nil _⟩
      · exact ⟨rfl, [.here], [], rfl, by decide, List.forall_mem_nil _⟩
    obtain ⟨-, parts, -, rfl⟩ := glob_eq_ok.mp reads
    split at inside
    · exact start.matchesFrom root (List.mem_of_mem_filter inside)
    · exact start.matchesFrom root inside

/-- What stands for a path has been reached on it. -/
theorem StandsFor.exists_reached (stands : disk.StandsFor extensions root path)
    (reached : root.Reached disk) :
    ∃ found : Found, found.Reached disk ∧ path = found.path.normalize ∧
      ∃ entry, (found.address, entry) ∈ disk.tree.entries ∧ entry ≠ .directory := by
  cases stands with
  | file here => exact ⟨root, reached, rfl, FileTree.exists_listed here⟩
  | @below names name entry here listed file last ending =>
    exact ⟨root.down names, reached.down names, (normalize_down names).symm, entry, listed, file⟩

/-- A pattern leads to paths of files of the tree, which go on by names and upward. -/
theorem LeadsTo.listed (leads : disk.LeadsTo extensions alternative path) :
    (∃ entry, (path.addressFrom disk.directory, entry) ∈ disk.tree.entries ∧ entry ≠ .directory) ∧
      path.Walks ∧ .here ∉ path := by
  obtain ⟨root, is, stands⟩ := leads
  obtain ⟨found, reached, rfl, listed⟩ := stands.exists_reached is.reached
  rw [Path.addressFrom_normalize, ← reached.address]
  exact ⟨listed, reached.walks.normalize, Path.here_notMem_normalize _⟩

end Disk

end LocaleLint
