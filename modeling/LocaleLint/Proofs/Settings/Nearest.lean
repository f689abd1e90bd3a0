import Mathlib
import LocaleLint.Proofs.Files.Addresses
import LocaleLint.Proofs.Text.Lists
import LocaleLint.Proofs.Text.Splitting
import LocaleLint.Settings.Search

/-!
# The nearest settings file

A search for settings goes from a directory upward to the root. It gives the settings file of the
nearest directory that holds one. The root of a repository is the last directory that it looks into,
and so a settings file above it is not found.
-/

namespace LocaleLint

namespace Path

variable {start directory nearer : Path} {step : PathStep}

/-- A directory lies upward from the start, or is the start: its path is what is left of the path of
the start when steps are taken from the end, be they names or steps to a parent. -/
def IsAbove (directory start : Path) : Prop := directory ≠ [] ∧ directory <+: start

/-- A directory on the way upward is strictly nearer to the start than another one. -/
def IsNearer (start directory nearer : Path) : Prop :=
  directory <+: nearer ∧ nearer ≠ directory ∧ nearer <+: start

theorem isAbove_root : directory.IsAbove [.root] ↔ directory = [.root] := by
  constructor
  · rintro ⟨filled, above⟩
    exact (List.prefix_concat_iff.mp (above : directory <+: [] ++ [.root])).resolve_right
      fun empty => filled (List.prefix_nil.mp empty)
  · rintro rfl
    exact ⟨List.cons_ne_nil _ _, List.prefix_rfl⟩

theorem isAbove_concat : directory.IsAbove (start ++ [step]) ↔
    directory = start ++ [step] ∨ directory.IsAbove start := by
  rw [IsAbove, List.prefix_concat_iff, and_or_left]
  refine or_congr_left (and_iff_right_of_imp ?_)
  rintro rfl
  exact List.append_ne_nil_of_right_ne_nil _ (List.cons_ne_nil _ _)

theorem not_isNearer_self : ¬ IsNearer start start nearer := fun ⟨below, other, above⟩ =>
  other (above.eq_of_length_le below.length_le)

theorem isNearer_concat (above : directory <+: start) :
    IsNearer (start ++ [step]) directory nearer ↔
      nearer = start ++ [step] ∨ IsNearer start directory nearer := by
  rw [IsNearer, List.prefix_concat_iff, and_or_left, and_or_left]
  refine or_congr_left ⟨fun near => near.2.2, ?_⟩
  rintro rfl
  refine ⟨above.trans (List.prefix_append _ _), ?_, rfl⟩
  rintro rfl
  simpa using above.length_le

theorem parent?_concat (inner : step ≠ .root) : parent? (start ++ [step]) = some start := by
  rw [parent?, List.getLast?_concat, List.dropLast_concat]
  cases step with
  | root => exact absurd rfl inner
  | here | up | name => rfl

end Path

/-! ## What is found -/

namespace SettingsFile

variable {disk : Disk} {start directory : Path} {answer : Option Path}

/-- The nearest directory upward that holds a settings file, with no root of a repository in
between. -/
structure IsNearest (disk : Disk) (start directory : Path) : Prop where
  above : directory.IsAbove start
  found : holds disk directory name = true
  first : ∀ nearer, Path.IsNearer start directory nearer →
    holds disk nearer name = false ∧ holds disk nearer repositoryMark = false

/-- The root of a repository lies strictly nearer to the start than a directory. -/
def IsCutOff (disk : Disk) (start directory : Path) : Prop :=
  ∃ nearer, Path.IsNearer start directory nearer ∧ holds disk nearer repositoryMark = true

/-- What a search from a directory has to give: the settings file of the nearest directory that
holds one, and nothing if each such directory is cut off. -/
inductive Gives (disk : Disk) (start : Path) : Option Path → Prop
  | nearest {directory : Path} (near : IsNearest disk start directory) :
    Gives disk start (some (directory.join name))
  | nothing (cut : ∀ directory, directory.IsAbove start → holds disk directory name = true →
      IsCutOff disk start directory) : Gives disk start none

theorem IsNearest.not_isCutOff (near : IsNearest disk start directory) :
    ¬ IsCutOff disk start directory := by
  rintro ⟨nearer, between, marked⟩
  exact Bool.false_ne_true ((near.first nearer between).2.symm.trans marked)

/-- Only one directory is the nearest. -/
theorem IsNearest.unique {other : Path} (near : IsNearest disk start directory)
    (near' : IsNearest disk start other) : directory = other := by
  by_contra different
  rcases List.prefix_or_prefix_of_prefix near.above.2 near'.above.2 with below | below
  · have between : Path.IsNearer start directory other := ⟨below, Ne.symm different, near'.above.2⟩
    exact Bool.false_ne_true ((near.first other between).1.symm.trans near'.found)
  · have between : Path.IsNearer start other directory := ⟨below, different, near.above.2⟩
    exact Bool.false_ne_true ((near'.first directory between).1.symm.trans near.found)

namespace Gives

theorem eq_some_iff (gives : Gives disk start answer) {file : Path} :
    answer = some file ↔
      ∃ directory, IsNearest disk start directory ∧ file = directory.join name := by
  cases gives with
  | nearest near =>
    constructor
    · rintro ⟨⟩
      exact ⟨_, near, rfl⟩
    · rintro ⟨other, near', rfl⟩
      rw [near.unique near']
  | nothing cut =>
    refine iff_of_false nofun ?_
    rintro ⟨directory, near, -⟩
    exact near.not_isCutOff (cut directory near.above near.found)

theorem eq_none_iff (gives : Gives disk start answer) :
    answer = none ↔ ∀ directory, directory.IsAbove start → holds disk directory name = true →
      IsCutOff disk start directory := by
  cases gives with
  | nearest near =>
    exact iff_of_false nofun fun cut => near.not_isCutOff (cut _ near.above near.found)
  | nothing cut => exact iff_of_true rfl cut

theorem of_holds (filled : start ≠ []) (found : holds disk start name = true) :
    Gives disk start (some (start.join name)) :=
  .nearest ⟨⟨filled, List.prefix_rfl⟩, found,
    fun _ between => absurd between Path.not_isNearer_self⟩

/-- A directory without a settings file that is the root of a repository cuts off all above it. -/
theorem of_mark {step : PathStep} (absent : holds disk (start ++ [step]) name = false)
    (marked : holds disk (start ++ [step]) repositoryMark = true) :
    Gives disk (start ++ [step]) none := by
  refine .nothing fun directory above found => ?_
  rcases Path.isAbove_concat.mp above with rfl | above
  · exact absurd (absent.symm.trans found) Bool.false_ne_true
  · exact ⟨_, (Path.isNearer_concat above.2).mpr (.inl rfl), marked⟩

/-- A directory that holds neither of the two leaves the answer to the directory above it. -/
theorem concat {step : PathStep} (absent : holds disk (start ++ [step]) name = false)
    (unmarked : holds disk (start ++ [step]) repositoryMark = false)
    (gives : Gives disk start answer) : Gives disk (start ++ [step]) answer := by
  cases gives with
  | nearest near =>
    refine .nearest ⟨Path.isAbove_concat.mpr (.inr near.above), near.found, ?_⟩
    intro nearer between
    rcases (Path.isNearer_concat near.above.2).mp between with rfl | between
    · exact ⟨absent, unmarked⟩
    · exact near.first nearer between
  | nothing cut =>
    refine .nothing fun directory above found => ?_
    rcases Path.isAbove_concat.mp above with rfl | above
    · exact absurd (absent.symm.trans found) Bool.false_ne_true
    · obtain ⟨nearer, between, marked⟩ := cut directory above found
      exact ⟨nearer, (Path.isNearer_concat above.2).mpr (.inr between), marked⟩

end Gives

/-! ### The whole way -/

theorem search_of_holds (found : holds disk start name = true) :
    search disk start = some (start.join name) := by
  rw [search, if_pos found]

theorem search_of_mark (absent : holds disk start name = false)
    (marked : holds disk start repositoryMark = true) : search disk start = none := by
  rw [search, if_neg (Bool.eq_false_iff.mp absent), if_pos marked]

theorem search_of_neither (absent : holds disk start name = false)
    (unmarked : holds disk start repositoryMark = false) :
    search disk start = start.parent?.bind (search disk) := by
  rw [search, if_neg (Bool.eq_false_iff.mp absent), if_neg (Bool.eq_false_iff.mp unmarked)]
  split
  · next none => rw [none, Option.bind_none]
  · next parent above => rw [above, Option.bind_some]

/-- From the root nothing is found but its own settings file. -/
theorem gives_search_root : Gives disk [.root] (search disk [.root]) := by
  cases found : holds disk [.root] name with
  | true =>
    rw [search_of_holds found]
    exact .of_holds (List.cons_ne_nil _ _) found
  | false =>
    have none : search disk [.root] = none := by
      cases marked : holds disk [.root] repositoryMark with
      | true => exact search_of_mark found marked
      | false => exact search_of_neither found marked
    rw [none]
    refine .nothing fun directory above here => ?_
    rw [Path.isAbove_root.mp above, found] at here
    cases here

/-- From every absolute path the search gives what it has to give. -/
theorem gives_search {steps : Path} (inner : steps.IsInner) :
    Gives disk (.root :: steps) (search disk (.root :: steps)) := by
  -- The induction takes the last step first, as the search does.
  induction steps using List.reverseRecOn with
  | nil => exact gives_search_root
  | append_singleton steps step ih =>
    obtain ⟨before, last⟩ := List.forall_mem_append.mp inner
    have notRoot : step ≠ .root := (last step (List.mem_singleton_self step)).1
    rw [← List.cons_append]
    cases found : holds disk (.root :: steps ++ [step]) name with
    | true =>
      rw [search_of_holds found]
      exact .of_holds (List.cons_ne_nil _ _) found
    | false =>
      cases marked : holds disk (.root :: steps ++ [step]) repositoryMark with
      | true =>
        rw [search_of_mark found marked]
        exact .of_mark found marked
      | false =>
        rw [search_of_neither found marked, Path.parent?_concat notRoot, Option.bind_some]
        exact (ih before).concat found marked

end SettingsFile

/-- A text that can be the name of a file: as a part of a path it is the step to that name. -/
def IsFileName (name : Text) : Prop := PathStep.ofPart name = [.name name] ∧ '/' ∉ name

instance (name : Text) : Decidable (IsFileName name) := inferInstanceAs (Decidable (_ ∧ _))

theorem Path.isFileName_of_mem {text name : Text} (inside : PathStep.name name ∈ ofText text) :
    IsFileName name := by
  have listed : PathStep.name name ∈ (Text.splitOn '/' text).flatMap PathStep.ofPart := by
    unfold ofText at inside
    split at inside
    · exact (List.mem_cons.mp inside).resolve_left nofun
    · exact (List.mem_cons.mp inside).resolve_left nofun
    · exact (List.mem_cons.mp inside).resolve_left nofun
    · exact inside
  obtain ⟨part, listed, inside⟩ := List.mem_flatMap.mp listed
  have clean : '/' ∉ part := Text.notMem_of_mem_splitOn listed
  unfold PathStep.ofPart at inside
  split at inside
  · cases inside
  · next filled =>
    split at inside
    · cases List.mem_singleton.mp inside
    · next down =>
      cases List.mem_singleton.mp inside
      exact ⟨by rw [PathStep.ofPart, if_neg filled, if_neg down], clean⟩

theorem Path.join_ofAddress {address : Address} {name : Text} :
    (ofAddress address).join name = ofAddress (address ++ [name]) := by
  simp [join, ofAddress]

theorem Path.toText_ofAddress {address : Address} :
    (ofAddress address).toText = '/' :: Text.joinWith ['/'] address := by
  simp [ofAddress, toText, Function.comp_def, PathStep.text]

theorem Path.ofAddress_prefix_iff {above address : Address} :
    ofAddress above <+: ofAddress address ↔ above <+: address := by
  have injective : Function.Injective PathStep.name := fun _ _ same => PathStep.name.inj same
  rw [ofAddress, ofAddress, List.cons_prefix_cons, and_iff_right rfl,
    List.prefix_map_iff_of_injective injective]

theorem Path.ofAddress_inj {address other : Address} :
    ofAddress address = ofAddress other ↔ address = other := by
  refine ⟨fun same => ?_, congrArg ofAddress⟩
  have upward : address <+: other := ofAddress_prefix_iff.mp (same ▸ List.prefix_rfl)
  exact upward.eq_of_length (by simpa [ofAddress] using congrArg List.length same)

theorem Path.isAbove_ofAddress {path : Path} {address : Address} :
    path.IsAbove (ofAddress address) ↔ ∃ above, above <+: address ∧ path = ofAddress above := by
  constructor
  · rintro ⟨filled, upward⟩
    obtain ⟨step, steps, rfl⟩ := List.exists_cons_of_ne_nil filled
    obtain ⟨rfl, names⟩ := List.cons_prefix_cons.mp upward
    obtain ⟨above, shorter, rfl⟩ := List.prefix_map_iff.mp names
    exact ⟨above, shorter, rfl⟩
  · rintro ⟨above, upward, rfl⟩
    exact ⟨List.cons_ne_nil _ _, ofAddress_prefix_iff.mpr upward⟩

theorem Path.isNearer_ofAddress {path : Path} {start directory : Address} :
    IsNearer (ofAddress start) (ofAddress directory) path ↔
      ∃ nearer, (directory <+: nearer ∧ nearer ≠ directory ∧ nearer <+: start) ∧
        path = ofAddress nearer := by
  constructor
  · rintro ⟨below, other, upward⟩
    have filled : path ≠ [] := fun empty =>
      List.cons_ne_nil _ _ (List.prefix_nil.mp (empty ▸ below))
    obtain ⟨nearer, shorter, rfl⟩ := isAbove_ofAddress.mp ⟨filled, upward⟩
    exact ⟨nearer, ⟨ofAddress_prefix_iff.mp below, mt ofAddress_inj.mpr other, shorter⟩, rfl⟩
  · rintro ⟨nearer, ⟨below, other, upward⟩, rfl⟩
    exact ⟨ofAddress_prefix_iff.mpr below, mt ofAddress_inj.mp other,
      ofAddress_prefix_iff.mpr upward⟩

namespace FileTree

variable {tree : FileTree} {address : Address} {name : Text}

theorem stepTo_name (opened : tree.isDirectory address = true) (named : IsFileName name) :
    tree.stepTo address name = .ok (address ++ [name]) := by
  have directory : tree.entry? address = some .directory := of_decide_eq_true opened
  have step := named.1
  unfold PathStep.ofPart at step
  split at step
  · cases step
  · next filled =>
    split at step
    · cases step
    · next down => simp only [stepTo, directory, if_neg filled, if_neg down]

/-- Names lead to their address if they lead through directories. -/
theorem foldlM_stepTo (opened : ∀ above, above <+: address → tree.isDirectory above = true)
    (named : ∀ part ∈ address ++ [name], IsFileName part) :
    (address ++ [name]).foldlM tree.stepTo [] = .ok (address ++ [name]) := by
  induction address using List.reverseRecOn generalizing name with
  | nil =>
    exact (bind_pure _).trans (stepTo_name (opened [] List.prefix_rfl) (named name (by simp)))
  | append_singleton address last ih =>
    have before : (address ++ [last]).foldlM tree.stepTo [] = .ok (address ++ [last]) :=
      ih (fun above upward => opened above (upward.trans (List.prefix_append _ _)))
        fun part inside => named part (List.mem_append_left _ inside)
    rw [List.foldlM_append, before]
    exact (bind_pure _).trans (stepTo_name (opened _ List.prefix_rfl) (named name (by simp)))

/-- A path from the root through directories is located at its address. -/
theorem locate_join_ofAddress (opened : ∀ above, above <+: address → tree.isDirectory above = true)
    (named : ∀ part ∈ address ++ [name], IsFileName part) (directory : Address) :
    tree.locate directory ((Path.ofAddress address).join name).toText =
      .ok (address ++ [name]) := by
  rw [Path.join_ofAddress, Path.toText_ofAddress, locate,
    Text.splitOn_joinWith (by simp) fun part inside => (named part inside).2]
  exact foldlM_stepTo opened named

end FileTree

namespace SettingsFile

variable {disk : Disk} {address directory : Address}

/-- The nearest directory upward that holds a settings file, with no root of a repository in
between, by addresses. -/
structure IsNearestAt (tree : FileTree) (start directory : Address) : Prop where
  above : directory <+: start
  found : (tree.entry? (directory ++ [name])).isSome = true
  first : ∀ nearer, directory <+: nearer → nearer ≠ directory → nearer <+: start →
    tree.entry? (nearer ++ [name]) = none ∧ tree.entry? (nearer ++ [repositoryMark]) = none

section

variable (opened : ∀ above, above <+: address → disk.tree.isDirectory above = true)
  (named : ∀ part ∈ address, IsFileName part)
include opened named

theorem holds_ofAddress {wanted : Text} (wantable : IsFileName wanted)
    (upward : directory <+: address) :
    holds disk (Path.ofAddress directory) wanted =
      (disk.tree.entry? (directory ++ [wanted])).isSome := by
  have through : ∀ above, above <+: directory → disk.tree.isDirectory above = true :=
    fun above further => opened above (further.trans upward)
  have names : ∀ part ∈ directory ++ [wanted], IsFileName part :=
    List.forall_mem_append.mpr
      ⟨fun part inside => named part (upward.subset inside), List.forall_mem_singleton.mpr wantable⟩
  rw [holds, FileTree.has, FileTree.find?, FileTree.locate_join_ofAddress through names]

/-- Upward from a directory of the tree the nearest directory is the one by addresses. -/
theorem isNearest_ofAddress :
    IsNearest disk (Path.ofAddress address) (Path.ofAddress directory) ↔
      IsNearestAt disk.tree address directory := by
  have settings {directory : Address} (upward : directory <+: address) :=
    holds_ofAddress opened named (by decide : IsFileName name) upward
  have marks {directory : Address} (upward : directory <+: address) :=
    holds_ofAddress opened named (by decide : IsFileName repositoryMark) upward
  constructor
  · rintro ⟨above, found, first⟩
    have upward : directory <+: address := Path.ofAddress_prefix_iff.mp above.2
    refine ⟨upward, (settings upward).symm.trans found, fun nearer below other up => ?_⟩
    obtain ⟨absent, unmarked⟩ :=
      first _ (Path.isNearer_ofAddress.mpr ⟨nearer, ⟨below, other, up⟩, rfl⟩)
    rw [settings up, Option.isSome_eq_false_iff, Option.isNone_iff_eq_none] at absent
    rw [marks up, Option.isSome_eq_false_iff, Option.isNone_iff_eq_none] at unmarked
    exact ⟨absent, unmarked⟩
  · rintro ⟨upward, found, first⟩
    refine ⟨Path.isAbove_ofAddress.mpr ⟨directory, upward, rfl⟩, (settings upward).trans found, ?_⟩
    intro nearer between
    obtain ⟨nearer, ⟨below, other, up⟩, rfl⟩ := Path.isNearer_ofAddress.mp between
    obtain ⟨absent, unmarked⟩ := first nearer below other up
    rw [settings up, marks up, absent, unmarked]
    exact ⟨rfl, rfl⟩

end

/-! ## What a search finds -/

/-- From every absolute path the search gives the settings file of the nearest directory upward that
holds one with no root of a repository in between, and nothing if there is no such directory: if
each one that holds a settings file is cut off. From a path of names that leads through directories
of the tree, upward is upward in the tree. -/
theorem search_finds_nearest (disk : Disk) {start : Text} (absolute : start.head? = some '/') :
    (∀ file, search disk (Path.ofText start) = some file ↔
      ∃ directory, IsNearest disk (Path.ofText start) directory ∧ file = directory.join name) ∧
    (search disk (Path.ofText start) = none ↔
      ∀ directory : Path, directory.IsAbove (Path.ofText start) → holds disk directory name = true →
        IsCutOff disk (Path.ofText start) directory) ∧
    ∀ address, Path.ofText start = Path.ofAddress address →
      (∀ above, above <+: address → disk.tree.isDirectory above = true) →
      ∀ file, search disk (Path.ofText start) = some file ↔
        ∃ directory, IsNearestAt disk.tree address directory ∧
          file = Path.ofAddress (directory ++ [name]) := by
  obtain ⟨rest, rfl⟩ := List.head?_eq_some_iff.mp absolute
  have gives : Gives disk (Path.ofText ('/' :: rest)) (search disk (Path.ofText ('/' :: rest))) :=
    gives_search (Path.isInner_parts _)
  refine ⟨fun file => gives.eq_some_iff, gives.eq_none_iff, fun address written opened file => ?_⟩
  have named : ∀ part ∈ address, IsFileName part := by
    intro part inside
    have step : PathStep.name part ∈ Path.ofAddress address :=
      List.mem_cons_of_mem _ (List.mem_map_of_mem inside)
    rw [← written] at step
    exact Path.isFileName_of_mem step
  rw [gives.eq_some_iff, written]
  constructor
  · rintro ⟨path, near, rfl⟩
    obtain ⟨directory, -, rfl⟩ := Path.isAbove_ofAddress.mp near.above
    exact ⟨directory, (isNearest_ofAddress opened named).mp near, Path.join_ofAddress⟩
  · rintro ⟨directory, near, rfl⟩
    exact ⟨_, (isNearest_ofAddress opened named).mpr near, Path.join_ofAddress.symm⟩

/-- A repository with settings of its own, with a module that is a repository without any, and with
other settings outside. -/
def repository : Disk where
  tree := ⟨[([name], .file none), (["repo".toList], .directory),
    (["repo".toList, repositoryMark], .directory), (["repo".toList, name], .file none),
    (["repo".toList, "app".toList], .directory),
    (["repo".toList, "app".toList, "src".toList], .directory),
    (["repo".toList, "lib".toList], .directory),
    (["repo".toList, "lib".toList, repositoryMark], .file none)]⟩
  directory := []

theorem search_finds_nearest_repository :
    "/repo/app/src".toList.head? = some '/' ∧ "/repo/lib".toList.head? = some '/' ∧
      search repository (Path.ofText "/repo/app/src".toList) =
        some (Path.ofAddress ["repo".toList, name]) ∧
      search repository (Path.ofText "/repo/lib".toList) = none := by
  have source : "/repo/app/src".toList.head? = some '/' := by decide
  have library : "/repo/lib".toList.head? = some '/' := by decide
  have opened : ∀ above, above <+: ["repo".toList, "app".toList, "src".toList] →
      repository.tree.isDirectory above = true := by
    intro above upward
    have each : ∀ above ∈ ["repo".toList, "app".toList, "src".toList].inits,
        repository.tree.isDirectory above = true := by decide
    exact each above ((List.mem_inits _ _).mpr upward)
  have near : IsNearestAt repository.tree ["repo".toList, "app".toList, "src".toList]
      ["repo".toList] := by
    refine ⟨by decide, by decide, fun nearer below other upward => ?_⟩
    have each : ∀ nearer ∈ ["repo".toList, "app".toList, "src".toList].inits,
        ["repo".toList] <+: nearer → nearer ≠ ["repo".toList] →
          repository.tree.entry? (nearer ++ [name]) = none ∧
            repository.tree.entry? (nearer ++ [repositoryMark]) = none := by decide
    exact each nearer ((List.mem_inits _ _).mpr upward) below other
  refine ⟨source, library, ?_, ?_⟩
  · exact ((search_finds_nearest repository source).2.2 _ (by decide) opened _).mpr ⟨_, near, rfl⟩
  · refine (search_finds_nearest repository library).2.1.mpr fun directory above found => ?_
    by_cases same : directory = Path.ofText "/repo/lib".toList
    · rw [same] at found
      exact absurd found (by decide)
    · exact ⟨_, ⟨above.2, Ne.symm same, List.prefix_rfl⟩, by decide⟩

/-- Without a settings file that is asked for, the layer is that of the nearest one upward from the
working directory, and sets nothing if there is none. -/
theorem load_nearest (disk : Disk) :
    (∀ directory, IsNearest disk (Path.ofAddress disk.directory) directory →
      load disk none = read disk (directory.join name).toText) ∧
    ((∀ directory, ¬ IsNearest disk (Path.ofAddress disk.directory) directory) →
      load disk none = .ok {}) := by
  have gives : Gives disk (Path.ofAddress disk.directory)
      (search disk (Path.ofAddress disk.directory)) := gives_search (Path.isInner_names _)
  constructor
  · intro directory near
    rw [load, gives.eq_some_iff.mpr ⟨directory, near, rfl⟩]
    rfl
  · intro nowhere
    have nothing : search disk (Path.ofAddress disk.directory) = none :=
      Option.eq_none_iff_forall_ne_some.mpr fun file found =>
        have ⟨directory, near, _⟩ := gives.eq_some_iff.mp found
        nowhere directory near
    rw [load, nothing]
    rfl

end SettingsFile

end LocaleLint
