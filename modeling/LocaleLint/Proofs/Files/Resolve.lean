import Mathlib
import LocaleLint.Files.Resolve
import LocaleLint.Proofs.Except
import LocaleLint.Proofs.Files.Braces
import LocaleLint.Proofs.Sorting
import LocaleLint.Proofs.Text.Order
import LocaleLint.Proofs.Text.Splitting

/-!
# Which files a pattern stands for

The files of a pattern are those of the roots of its alternatives, without the ignored ones, each
once and in order. As they are a set, it does not matter in which order, how often or through which
leading dots the alternatives lead to them.
-/

namespace LocaleLint

/-! ## The order of paths -/

theorem PathStep.isTotalOrder_le : IsTotalOrder PathStep.le where
  total a b := by
    cases a <;> cases b <;> first | exact Text.isTotalOrder_le.total _ _ | simp [le, rank]
  trans {a b c} first second := by
    cases a <;> cases b <;> cases c <;>
      first | exact Text.isTotalOrder_le.trans first second | simp_all [le, rank]
  antisymm {a b} first second := by
    cases a <;> cases b <;>
      first
      | exact congrArg name (Text.isTotalOrder_le.antisymm first second)
      | simp_all [le, rank]

namespace Path

/-- A path is before another one: it goes on to it, or its first other step is before that of the
other one. -/
def Before : Path → Path → Prop := List.Lex fun a b => a ≠ b ∧ a.le b = true

theorem le_iff {s t : Path} : le s t = true ↔ s = t ∨ Before s t := by
  induction s generalizing t with
  | nil => cases t <;> simp [le, Before]
  | cons a s ih =>
    cases t with
    | nil => simp [le, Before]
    | cons b t =>
      rw [le, Before, List.cons_lex_cons_iff, List.cons_eq_cons]
      by_cases same : a = b
      · simp [same, ih, Before]
      · simp [same]

theorem isTotalOrder_le : IsTotalOrder Path.le := by
  refine IsLexicographic.isTotalOrder ⟨fun _ => rfl, fun _ _ => rfl, ?_⟩ PathStep.isTotalOrder_le
  intro a s b t
  rw [le]
  by_cases same : a = b
  · simp [same]
  · simp [same]

instance : Std.Irrefl Before := ⟨List.lex_irrefl fun _ other => other.1 rfl⟩

instance : Std.Antisymm Before :=
  ⟨fun _ _ first second =>
    isTotalOrder_le.antisymm (le_iff.mpr (.inr first)) (le_iff.mpr (.inr second))⟩

/-- A sorted list without copies is in strict order. -/
theorem pairwise_before_mergeSort {paths : List Path} (distinct : paths.Nodup) :
    (paths.mergeSort le).Pairwise Before := by
  have sorted := isTotalOrder_le.pairwise_mergeSort paths
  have once := (List.mergeSort_perm paths le).nodup_iff.mpr distinct
  exact (List.pairwise_and_iff.mpr ⟨sorted, once⟩).imp fun ⟨ordered, other⟩ =>
    (le_iff.mp ordered).resolve_left other

/-! ## Dots -/

theorem normalize_append (s t : Path) : normalize (s ++ t) = normalize s ++ normalize t :=
  List.filter_append s t

theorem normalize_names (names : List Text) :
    normalize (names.map .name) = names.map .name := by
  refine List.filter_eq_self.mpr fun step inside => ?_
  obtain ⟨n, -, rfl⟩ := List.mem_map.mp inside
  simp

end Path

namespace Glob

/-- Whether a pattern can be read, and to which pieces, does not depend on how much of a text is in
front of it. -/
theorem toOption_readTokens (fuel position position' : Nat) (partStart : Bool) (text : Text) :
    (readTokens fuel position partStart text).toOption =
      (readTokens fuel position' partStart text).toOption := by
  induction fuel generalizing position position' partStart text with
  | zero => rfl
  | succ fuel ih =>
    have later {x y : Except GlobError (List GlobToken)} (token : GlobToken)
        (same : x.toOption = y.toOption) :
        (do return token :: (← x) : Except GlobError _).toOption =
          (do return token :: (← y) : Except GlobError _).toOption := by
      cases x <;> cases y <;> simp_all [Except.toOption, bind, Except.bind, pure, Except.pure]
    cases text with
    | nil => rfl
    | cons c rest =>
      simp only [readTokens]
      split
      · exact later _ (ih ..)
      · split
        · split
          · rfl
          · split
            · split
              · rfl
              · exact later _ (ih ..)
              · rfl
            · rfl
          · exact later _ (ih ..)
        · split
          · split
            · rfl
            · exact later _ (ih ..)
          · exact later _ (ih ..)

/-- A character without a meaning of its own is read as itself. -/
theorem readTokens_literal {c : Char} (plain : c ≠ '?' ∧ c ≠ '*' ∧ c ≠ '[') (fuel position : Nat)
    (partStart : Bool) (rest : Text) :
    readTokens (fuel + 1) position partStart (c :: rest) =
      (readTokens fuel (position + 1) (c == '/') rest).map (.literal c :: ·) := by
  obtain ⟨question, star, bracket⟩ := plain
  simp only [readTokens, if_neg question, if_neg star, if_neg bracket]
  cases readTokens fuel (position + 1) (c == '/') rest <;> rfl

theorem isSome_ofText_dotted (text : Text) :
    (ofText ('.' :: '/' :: text)).toOption.isSome = (ofText text).toOption.isSome := by
  have isSome_map {α β : Type} (f : α → β) (x : Except GlobError α) :
      (x.map f).toOption.isSome = x.toOption.isSome := by
    cases x <;> rfl
  have dot := readTokens_literal (by decide : '.' ≠ '?' ∧ '.' ≠ '*' ∧ '.' ≠ '[')
    (text.length + 1) 0 true ('/' :: text)
  have slash := readTokens_literal (by decide : '/' ≠ '?' ∧ '/' ≠ '*' ∧ '/' ≠ '[')
    text.length 1 false text
  have shifted := toOption_readTokens text.length 2 0 true text
  rw [ofText, ofText, isSome_map, isSome_map, List.length_cons, List.length_cons, dot, isSome_map]
  exact (congrArg (·.toOption.isSome) slash).trans ((isSome_map _ _).trans (congrArg _ shifted))

end Glob

/-! ## What a pattern stands for -/

theorem FileTree.below?_eq_some {address other names : Address} :
    below? address other = some names ↔ names ≠ [] ∧ other = address ++ names := by
  induction address generalizing other with
  | nil =>
    cases other with
    | nil => simp +contextual [below?, eq_comm]
    | cons b other => simp +contextual [below?, eq_comm]
  | cons a address ih =>
    cases other with
    | nil => simp [below?]
    | cons b other =>
      rw [below?]
      by_cases same : a = b
      · simp [same, ih]
      · simp [same, Ne.symm same]

theorem FileTree.mem_below {tree : FileTree} {address names : Address} {entry : FileEntry} :
    (names, entry) ∈ tree.below address ↔
      names ≠ [] ∧ (address ++ names, entry) ∈ tree.entries := by
  simp only [below, List.mem_filterMap, Option.map_eq_some_iff, below?_eq_some]
  constructor
  · rintro ⟨⟨other, entry'⟩, listed, names', ⟨filled, rfl⟩, same⟩
    cases same
    exact ⟨filled, listed⟩
  · rintro ⟨filled, listed⟩
    exact ⟨_, listed, names, ⟨filled, rfl⟩, rfl⟩

def FileTree.IsFile (tree : FileTree) (address : Address) : Prop :=
  ∃ entry, tree.entry? address = some entry ∧ entry ≠ .directory

/-- A name has an ending that is one of the extensions, behind its last dot and something else. -/
def HasEnding (extensions : List Text) (name : Text) : Prop :=
  ∃ stem ending, name = stem ++ '.' :: ending ∧ stem ≠ [] ∧ '.' ∉ ending ∧ ending ∈ extensions

theorem Path.splitName_plain {name : Text} (plain : '.' ∉ name) : splitName name = (name, none) := by
  have all := Text.decide_ne_of_notMem (mt List.mem_reverse.mp plain)
  rw [splitName, List.dropWhile_eq_nil_iff.mpr all]
  rfl

theorem Path.splitName_append (stem : Text) {ending : Text} (plain : '.' ∉ ending) :
    splitName (stem ++ '.' :: ending) =
      if stem = [] then ('.' :: ending, none) else (stem, some ending) := by
  have all := Text.decide_ne_of_notMem (mt List.mem_reverse.mp plain)
  have turned : (stem ++ '.' :: ending).reverse = ending.reverse ++ '.' :: stem.reverse := by simp
  rw [splitName, turned, List.takeWhile_append_of_pos all, List.dropWhile_append_of_pos all]
  by_cases none : stem = []
  · simp [none]
  · simp [none]

theorem Path.splitName_eq_some {name ending : Text} :
    (splitName name).2 = some ending ↔
      ∃ stem, name = stem ++ '.' :: ending ∧ stem ≠ [] ∧ '.' ∉ ending := by
  constructor
  · intro read
    by_cases dotted : '.' ∈ name
    · obtain ⟨before, after, turned, plain⟩ :=
        List.eq_append_cons_of_mem (List.mem_reverse.mpr dotted)
      obtain rfl : name = after.reverse ++ '.' :: before.reverse := by
        rw [← List.reverse_reverse name, turned]
        simp
      rw [← List.mem_reverse] at plain
      rw [splitName_append _ plain] at read
      split at read
      · cases read
      · next filled =>
        cases read
        exact ⟨_, rfl, filled, plain⟩
    · rw [splitName_plain dotted] at read
      cases read
  · rintro ⟨stem, rfl, filled, plain⟩
    rw [splitName_append stem plain, if_neg filled]

namespace Disk

variable {disk : Disk} {extensions : List Text} {root : Found} {path : Path}

theorem hasExtension_iff {front : Path} {names : List Text} (filled : names ≠ []) :
    hasExtension extensions (front ++ names.map .name) = true ↔
      ∃ name, names.getLast? = some name ∧ HasEnding extensions name := by
  obtain ⟨others, last, rfl⟩ := (List.eq_nil_or_concat names).resolve_left filled
  have named : Path.fileName? (front ++ (others.concat last).map .name) = some last := by
    simp [Path.fileName?]
  rw [hasExtension, Path.extension?, named, Option.bind_some, Option.any_eq_true]
  simp only [Path.splitName_eq_some, List.contains_iff_mem, List.concat_eq_append,
    List.getLast?_append_cons, List.getLast?_singleton, Option.some_inj, exists_eq_left']
  exact ⟨fun ⟨ending, ⟨stem, same, filled, plain⟩, listed⟩ =>
    ⟨stem, ending, same, filled, plain, listed⟩,
    fun ⟨stem, ending, same, filled, plain, listed⟩ =>
    ⟨ending, ⟨stem, same, filled, plain⟩, listed⟩⟩

/-- What an alternative of a pattern leads to: to itself, if it has no wildcards and is there, and
to all that it matches, if it has some. -/
inductive IsRoot (disk : Disk) (alternative : Text) : Found → Prop
  | written {address : Address} (plain : Glob.isPattern alternative = false)
      (leads : disk.tree.locate disk.directory alternative = .ok address)
      (there : (disk.tree.entry? address).isSome) :
      IsRoot disk alternative ⟨Path.ofText alternative, address⟩
  | matched {found : List Found} {root : Found} (wild : Glob.isPattern alternative = true)
      (reads : disk.glob alternative = .ok found) (inside : root ∈ found) :
      IsRoot disk alternative root

/-- What is found stands for a path without dots: for its own one if it is a file, and if it is a
directory for those of the files below it that have one of the extensions. -/
inductive StandsFor (disk : Disk) (extensions : List Text) (root : Found) : Path → Prop
  | file (here : disk.tree.IsFile root.address) : StandsFor disk extensions root root.path.normalize
  | below {names : List Text} {name : Text} {entry : FileEntry} (here : disk.isDirectory root = true)
      (listed : (root.address ++ names, entry) ∈ disk.tree.entries) (file : entry ≠ .directory)
      (last : names.getLast? = some name) (ending : HasEnding extensions name) :
      StandsFor disk extensions root (root.path.normalize ++ names.map .name)

/-- An alternative can be read: if it has wildcards, they are well written. -/
def IsReadable (disk : Disk) (alternative : Text) : Prop :=
  Glob.isPattern alternative = true → ∃ found, disk.glob alternative = .ok found

/-- An alternative leads to a path: to something that stands for it. -/
def LeadsTo (disk : Disk) (extensions : List Text) (alternative : Text) (path : Path) : Prop :=
  ∃ root, disk.IsRoot alternative root ∧ disk.StandsFor extensions root path

/-- A path is wanted: no entry ignores it, and an alternative of the pattern leads to it. -/
def IsWanted (disk : Disk) (pattern : Text) (entries : List IgnoreEntry) (extensions : List Text)
    (path : Path) : Prop :=
  (∀ entry ∈ entries, entry.covers path = false) ∧
    ∃ alternative ∈ Braces.expand pattern, disk.LeadsTo extensions alternative path

theorem normalize_down (names : List Text) :
    (root.down names).path.normalize = root.path.normalize ++ names.map .name := by
  rw [Found.down, Path.normalize_append, Path.normalize_names]
  split
  · next dot => simp [dot, Path.normalize]
  · rfl

/-- The files of what has been found are what it stands for. -/
theorem mem_filesAt : path ∈ disk.filesAt extensions root ↔ disk.StandsFor extensions root path := by
  have directory_iff : disk.isDirectory root = true ↔
      disk.tree.entry? root.address = some .directory := by
    simp [isDirectory, FileTree.isDirectory]
  constructor
  · intro inside
    rw [filesAt] at inside
    split at inside
    · cases inside
    · next here =>
      obtain ⟨⟨names, entry⟩, listed, kept⟩ := List.mem_filterMap.mp inside
      obtain ⟨filled, listed⟩ := FileTree.mem_below.mp listed
      dsimp only at kept
      rw [normalize_down] at kept
      split at kept
      · next both =>
        cases kept
        obtain ⟨name, last, ending⟩ := (hasExtension_iff filled).mp both.2
        exact .below (directory_iff.mpr here) listed both.1 last ending
      · cases kept
    · next entry other here =>
      cases List.mem_singleton.mp inside
      exact .file ⟨entry, here, fun same => other (same ▸ rfl)⟩
  · intro stands
    cases stands with
    | file here =>
      obtain ⟨entry, there, file⟩ := here
      rw [filesAt, there]
      cases entry with
      | directory => exact absurd rfl file
      | file content => exact List.mem_singleton_self _
      | locked content => exact List.mem_singleton_self _
    | @below names name entry here listed file last ending =>
      have filled : names ≠ [] := fun none => by simp [none] at last
      rw [filesAt, directory_iff.mp here]
      refine List.mem_filterMap.mpr
        ⟨(names, entry), FileTree.mem_below.mpr ⟨filled, listed⟩, ?_⟩
      dsimp only
      rw [normalize_down, if_pos ⟨file, (hasExtension_iff filled).mpr ⟨name, last, ending⟩⟩]

theorem mem_of_rootsOf {alternative : Text} {roots : List Found}
    (run : disk.rootsOf alternative = .ok roots) : root ∈ roots ↔ disk.IsRoot alternative root := by
  rw [rootsOf] at run
  split at run
  · next wild =>
    have reads := mapError_eq_ok.mp run
    refine ⟨.matched wild reads, fun is => ?_⟩
    cases is with
    | written plain => exact absurd wild (by simp [plain])
    | matched _ reads' inside =>
      rw [reads] at reads'
      cases reads'
      exact inside
  · next plain =>
    rw [Bool.not_eq_true] at plain
    split at run
    · next fault lost =>
      cases run
      refine ⟨fun inside => absurd inside List.not_mem_nil, fun is => ?_⟩
      cases is with
      | written _ leads => simp [lost] at leads
      | matched wild => simp [plain] at wild
    · next address leads =>
      cases run
      constructor
      · intro inside
        split at inside
        · next there =>
          cases List.mem_singleton.mp inside
          exact .written plain leads there
        · cases inside
      · intro is
        cases is with
        | written _ leads' there =>
          rw [leads] at leads'
          cases leads'
          rw [if_pos there]
          exact List.mem_singleton_self _
        | matched wild => simp [plain] at wild

theorem exists_rootsOf_iff {alternative : Text} :
    (∃ roots, disk.rootsOf alternative = .ok roots) ↔ disk.IsReadable alternative := by
  rw [IsReadable, rootsOf]
  split
  · next wild => simp [mapError_eq_ok, wild]
  · next plain =>
    refine ⟨fun _ wild => absurd wild plain, fun _ => ?_⟩
    cases disk.tree.locate disk.directory alternative with
    | error fault => exact ⟨_, rfl⟩
    | ok address => exact ⟨_, rfl⟩

/-! ## Resolving -/

section

variable {pattern : Text} {ignores : List Text} {entries : List IgnoreEntry} {files : List Path}

variable (disk extensions) in
/-- If all alternatives can be read, resolving succeeds. -/
theorem exists_resolve (compiled : IgnoreEntry.ofTexts ignores = .ok entries)
    (readable : ∀ alternative ∈ Braces.expand pattern, disk.IsReadable alternative) :
    ∃ files, disk.resolve pattern ignores extensions = .ok files ∧ files.Pairwise Path.Before ∧
      ∀ path, path ∈ files ↔ disk.IsWanted pattern entries extensions path := by
  obtain ⟨lists, run⟩ := exists_mapM_eq_ok fun alternative listed =>
    exists_rootsOf_iff.mpr (readable alternative listed)
  have each := mapM_eq_ok.mp run
  have found : ∀ root, root ∈ lists.flatten ↔
      ∃ alternative ∈ Braces.expand pattern, disk.IsRoot alternative root := by
    intro root
    rw [List.mem_flatten]
    constructor
    · rintro ⟨roots, listed, inside⟩
      obtain ⟨alternative, listed, run⟩ := exists_of_forall₂ each.flip listed
      exact ⟨alternative, listed, (mem_of_rootsOf run).mp inside⟩
    · rintro ⟨alternative, listed, is⟩
      obtain ⟨roots, listed, run⟩ := exists_of_forall₂ each listed
      exact ⟨roots, listed, (mem_of_rootsOf run).mpr is⟩
  refine ⟨_, by rw [resolve, compiled]; simp only [run]; rfl,
    Path.pairwise_before_mergeSort (nodup_eraseDups _), fun path => ?_⟩
  rw [List.mem_mergeSort, List.mem_eraseDups, List.mem_filter, IsWanted, and_comm]
  refine and_congr (by simp) ?_
  simp only [List.mem_flatMap, found, mem_filesAt, LeadsTo]
  constructor
  · rintro ⟨root, ⟨alternative, listed, is⟩, stands⟩
    exact ⟨alternative, listed, root, is, stands⟩
  · rintro ⟨alternative, listed, root, is, stands⟩
    exact ⟨root, ⟨alternative, listed, is⟩, stands⟩

/-- The first alternative that cannot be read is reported. -/
theorem resolve_eq_error (compiled : IgnoreEntry.ofTexts ignores = .ok entries)
    {before after : List Text} {alternative : Text} {e : GlobError}
    (split : Braces.expand pattern = before ++ alternative :: after)
    (readable : ∀ earlier ∈ before, disk.IsReadable earlier)
    (wild : Glob.isPattern alternative = true) (fails : disk.glob alternative = .error e) :
    disk.resolve pattern ignores extensions = .error (.globInvalid alternative e) := by
  have failed : disk.rootsOf alternative = .error (.globInvalid alternative e) := by
    rw [rootsOf, if_pos wild, fails]
    rfl
  have run : (Braces.expand pattern).mapM disk.rootsOf = .error (.globInvalid alternative e) := by
    rw [split]
    exact mapM_eq_error (fun earlier one => exists_rootsOf_iff.mpr (readable earlier one)) failed
  rw [resolve, compiled]
  simp only [run]
  rfl

/-- The files are the wanted ones, each once and in order, and that is one list only. -/
theorem resolve_eq_ok_iff (compiled : IgnoreEntry.ofTexts ignores = .ok entries) :
    disk.resolve pattern ignores extensions = .ok files ↔
      (∀ alternative ∈ Braces.expand pattern, disk.IsReadable alternative) ∧
        files.Pairwise Path.Before ∧
        ∀ path, path ∈ files ↔ disk.IsWanted pattern entries extensions path := by
  by_cases readable : ∀ alternative ∈ Braces.expand pattern, disk.IsReadable alternative
  · obtain ⟨others, resolved, sorted, wanted⟩ :=
      exists_resolve disk extensions compiled readable
    rw [resolved, Except.ok.injEq, and_iff_right readable]
    constructor
    · rintro rfl
      exact ⟨sorted, wanted⟩
    · rintro ⟨sorted', wanted'⟩
      exact sorted.eq_of_mem_iff sorted' fun path => (wanted path).trans (wanted' path).symm
  · refine iff_of_false (fun resolved => readable fun alternative listed => ?_)
      fun ⟨all, _⟩ => readable all
    obtain ⟨_, _, resolved⟩ := bind_eq_ok.mp resolved
    obtain ⟨lists, run, -⟩ := bind_eq_ok.mp resolved
    obtain ⟨roots, -, run⟩ := exists_of_forall₂ (mapM_eq_ok.mp run) listed
    exact exists_rootsOf_iff.mp ⟨roots, run⟩

/-! ## Alternatives that lead to the same files -/

/-- An alternative without the dots and slashes that it may start with. -/
def undotted : Text → Text
  | '.' :: '/' :: c :: rest => if c = '/' then '.' :: '/' :: c :: rest else undotted (c :: rest)
  | text => text

/-- Two patterns have the same alternatives, apart from their order, from copies and from leading
dots. -/
def SameAlternatives (pattern other : Text) : Prop :=
  ∀ text, text ∈ (Braces.expand pattern).map undotted ↔ text ∈ (Braces.expand other).map undotted

theorem partsOf_dotted {text : Text} (filled : text ≠ []) :
    partsOf ('.' :: '/' :: text) = ['.'] :: partsOf text ∧ partsOf text ≠ [] := by
  obtain ⟨first, rest, split⟩ := List.exists_cons_of_ne_nil (Text.splitOn_ne_nil '/' text)
  have dotted : Text.splitOn '/' ('.' :: '/' :: text) = ['.'] :: Text.splitOn '/' text :=
    Text.splitOn_append (by decide : '/' ∉ ['.']) text
  rw [partsOf, partsOf, dotted, split]
  cases rest with
  | nil =>
    have : first ≠ [] := by
      rintro rfl
      have joined := Text.joinWith_splitOn '/' text
      rw [split] at joined
      exact filled joined.symm
    simp [this]
  | cons second rest =>
    simp only [List.getLast?_cons_cons, List.dropLast_cons_cons]
    split <;> simp

theorem matchesFrom_eq_nil {parts : List Glob} (filled : parts ≠ [])
    (file : disk.isDirectory root = false) : disk.matchesFrom parts root = [] := by
  have below : disk.below root = [] := by simp [Disk.below, file]
  fun_induction disk.matchesFrom parts root with
  | case1 here => exact absurd rfl filled
  | case2 here part any => simp [below]
  | case3 here part any next rest any' ih => exact ih (List.cons_ne_nil next rest) file below
  | case4 here part any next rest other => simp [below]
  | case5 here part parts other name literal => simp [stepTo?, file]
  | case6 here part parts other wild => simp [stepsTo, file]

/-- A dot leads to where it stands. -/
theorem matchesFrom_dot {parts : List Glob} (filled : parts ≠ []) :
    disk.matchesFrom (⟨[.literal '.']⟩ :: parts) root = disk.matchesFrom parts root := by
  have single : Glob.isAnyParts ⟨[.literal '.']⟩ = false := rfl
  have literal : Glob.literal? ⟨[.literal '.']⟩ = some ['.'] := rfl
  rw [matchesFrom.eq_def]
  simp only [single, literal, Bool.false_eq_true, if_false]
  cases here : disk.isDirectory root with
  | false => simp [stepTo?, here, matchesFrom_eq_nil filled here]
  | true => simp [stepTo?, here]

variable (disk) in
theorem locate_dotted {c : Char} (relative : c ≠ '/') (rest : Text) :
    disk.tree.locate disk.directory ('.' :: '/' :: c :: rest) =
      disk.tree.locate disk.directory (c :: rest) := by
  have written (front : Char) (text : Text) (other : front ≠ '/') :
      disk.tree.locate disk.directory (front :: text) =
        (Text.splitOn '/' (front :: text)).foldlM disk.tree.stepTo disk.directory := by
    rw [FileTree.locate]
    · simp
    · simpa using other
  have dotted : Text.splitOn '/' ('.' :: '/' :: c :: rest) = ['.'] :: Text.splitOn '/' (c :: rest) :=
    Text.splitOn_append (by decide : '/' ∉ ['.']) (c :: rest)
  obtain ⟨first, others, split⟩ := List.exists_cons_of_ne_nil (Text.splitOn_ne_nil '/' (c :: rest))
  rw [written _ _ relative, written _ _ (by decide), dotted, List.foldlM_cons, split,
    List.foldlM_cons]
  -- Both steps from the working directory fail alike if it is none.
  cases here : disk.tree.entry? disk.directory with
  | none => simp [FileTree.stepTo, here, bind, Except.bind]
  | some entry =>
    cases entry with
    | directory => simp [FileTree.stepTo, here, bind, Except.bind]
    | file content => simp [FileTree.stepTo, here, bind, Except.bind]
    | locked content => simp [FileTree.stepTo, here, bind, Except.bind]

theorem normalize_ofText_dotted {c : Char} (relative : c ≠ '/') (rest : Text) :
    (Path.ofText ('.' :: '/' :: c :: rest)).normalize = (Path.ofText (c :: rest)).normalize := by
  have dotted : Text.splitOn '/' ('.' :: '/' :: c :: rest) = ['.'] :: Text.splitOn '/' (c :: rest) :=
    Text.splitOn_append (by decide : '/' ∉ ['.']) (c :: rest)
  have left : (Path.ofText ('.' :: '/' :: c :: rest)).normalize =
      Path.normalize ((Text.splitOn '/' (c :: rest)).flatMap PathStep.ofPart) := by
    simp [Path.ofText, dotted, Path.normalize, PathStep.ofPart]
  rw [left, Path.ofText.eq_def]
  dsimp only
  split
  · next same =>
    cases same
    exact absurd rfl relative
  · simp [Path.normalize]
  · simp [Path.normalize]
  · rfl

theorem isPattern_dotted (text : Text) :
    Glob.isPattern ('.' :: '/' :: text) = Glob.isPattern text := by
  simp [Glob.isPattern]

theorem glob_eq_ok {pattern : Text} {found : List Found} :
    disk.glob pattern = .ok found ↔
      (Glob.ofText pattern).toOption.isSome ∧
        ∃ parts, (partsOf (disk.startOf pattern).2).mapM Glob.ofText = .ok parts ∧
          (if pattern.getLast? = some '/'
            then (disk.matchesFrom parts (disk.startOf pattern).1).filter disk.isDirectory
            else disk.matchesFrom parts (disk.startOf pattern).1) = found := by
  have binds {α : Type} {x : Except GlobError Glob} {y : Except GlobError α} {a : α} :
      (x >>= fun _ => y) = .ok a ↔ x.toOption.isSome ∧ y = .ok a := by
    cases x <;> simp [bind, Except.bind, Except.toOption]
  rw [glob, binds]
  refine and_congr_right fun _ => ?_
  simp only [bind_eq_ok, pure, Except.pure, Except.ok.injEq]

theorem glob_dotted_eq_ok {c : Char} (relative : c ≠ '/') {rest : Text} {found : List Found} :
    disk.glob ('.' :: '/' :: c :: rest) = .ok found ↔ disk.glob (c :: rest) = .ok found := by
  have start (front : Char) (text : Text) (other : front ≠ '/') :
      disk.startOf (front :: text) = (⟨[.here], disk.directory⟩, front :: text) := by
    rw [startOf]
    simpa using other
  obtain ⟨split, filled⟩ := partsOf_dotted (List.cons_ne_nil c rest)
  have dot : Glob.ofText ['.'] = .ok ⟨[.literal '.']⟩ := rfl
  rw [glob_eq_ok, glob_eq_ok, Glob.isSome_ofText_dotted, start _ _ relative,
    start _ _ (by decide), split]
  refine and_congr_right fun _ => ?_
  have read {parts : List Glob} (run : (partsOf (c :: rest)).mapM Glob.ofText = .ok parts) :
      disk.matchesFrom (⟨[.literal '.']⟩ :: parts) ⟨[.here], disk.directory⟩ =
        disk.matchesFrom parts ⟨[.here], disk.directory⟩ := by
    refine matchesFrom_dot fun none => ?_
    cases none
    exact filled (List.forall₂_nil_right_iff.mp (mapM_eq_ok.mp run))
  dsimp only
  rw [List.getLast?_cons_cons, List.getLast?_cons_cons, List.mapM_cons, dot]
  simp only [bind_eq_ok, pure, Except.pure, Except.ok.injEq, exists_eq_left']
  constructor
  · rintro ⟨_, ⟨parts, run, rfl⟩, same⟩
    exact ⟨parts, run, read run ▸ same⟩
  · rintro ⟨parts, run, same⟩
    exact ⟨_, ⟨parts, run, rfl⟩, (read run).symm ▸ same⟩

theorem StandsFor.congr {root other : Found} (stands : disk.StandsFor extensions root path)
    (address : root.address = other.address)
    (normal : root.path.normalize = other.path.normalize) :
    disk.StandsFor extensions other path := by
  cases stands with
  | file here =>
    rw [normal]
    exact .file (address ▸ here)
  | below here listed file last ending =>
    rw [normal]
    rw [isDirectory, address] at here
    rw [address] at listed
    exact .below here listed file last ending

theorem leadsTo_dotted {c : Char} (relative : c ≠ '/') {rest : Text} :
    disk.LeadsTo extensions ('.' :: '/' :: c :: rest) path ↔
      disk.LeadsTo extensions (c :: rest) path := by
  have located := locate_dotted disk relative rest
  have normal := normalize_ofText_dotted relative rest
  constructor
  · rintro ⟨_, ⟨plain, leads, there⟩ | ⟨wild, reads, inside⟩, stands⟩
    · rw [isPattern_dotted] at plain
      exact ⟨_, .written plain (located ▸ leads) there, stands.congr rfl normal⟩
    · rw [isPattern_dotted] at wild
      exact ⟨_, .matched wild ((glob_dotted_eq_ok relative).mp reads) inside, stands⟩
  · rintro ⟨_, ⟨plain, leads, there⟩ | ⟨wild, reads, inside⟩, stands⟩
    · rw [← isPattern_dotted] at plain
      exact ⟨_, .written plain (located.symm ▸ leads) there, stands.congr rfl normal.symm⟩
    · rw [← isPattern_dotted] at wild
      exact ⟨_, .matched wild ((glob_dotted_eq_ok relative).mpr reads) inside, stands⟩

theorem leadsTo_undotted (text : Text) :
    disk.LeadsTo extensions (undotted text) path ↔ disk.LeadsTo extensions text path := by
  fun_induction undotted text with
  | case1 rest => rfl
  | case2 c rest relative ih => exact ih.trans (leadsTo_dotted relative).symm
  | case3 text => rfl

theorem isReadable_undotted (text : Text) :
    disk.IsReadable (undotted text) ↔ disk.IsReadable text := by
  fun_induction undotted text with
  | case1 rest => rfl
  | case2 c rest relative ih =>
    rw [ih, IsReadable, IsReadable, isPattern_dotted]
    simp only [glob_dotted_eq_ok relative]
  | case3 text => rfl

theorem isWanted_congr {other : Text} (same : SameAlternatives pattern other) :
    disk.IsWanted pattern entries extensions path ↔
      disk.IsWanted other entries extensions path := by
  have undotted (pattern : Text) :
      (∃ alternative ∈ Braces.expand pattern, disk.LeadsTo extensions alternative path) ↔
        ∃ text ∈ (Braces.expand pattern).map undotted, disk.LeadsTo extensions text path := by
    simp [leadsTo_undotted]
  rw [IsWanted, IsWanted, undotted, undotted other]
  exact and_congr_right fun _ => exists_congr fun text => and_congr_left' (same text)

theorem isReadable_congr {other : Text} (same : SameAlternatives pattern other) :
    (∀ alternative ∈ Braces.expand pattern, disk.IsReadable alternative) ↔
      ∀ alternative ∈ Braces.expand other, disk.IsReadable alternative := by
  have undotted (pattern : Text) :
      (∀ alternative ∈ Braces.expand pattern, disk.IsReadable alternative) ↔
        ∀ text ∈ (Braces.expand pattern).map undotted, disk.IsReadable text := by
    simp [isReadable_undotted]
  rw [undotted, undotted other]
  exact forall_congr' fun text => imp_congr_left (same text)

/-- Which alternatives a group has is all that counts, not their order. -/
theorem sameAlternatives_group {front : Text} (balanced : Braces.Balanced front)
    {items others : List Text} (some : items ≠ [])
    (fits : ∀ item ∈ items, Braces.Balanced item ∧ Braces.InnerCommas item)
    (same : ∀ item, item ∈ items ↔ item ∈ others) (back : Text) :
    SameAlternatives (front ++ ('\x7b' :: Text.joinWith [','] items ++ '\x7d' :: back))
      (front ++ ('\x7b' :: Text.joinWith [','] others ++ '\x7d' :: back)) := by
  have some' : others ≠ [] := by
    rintro rfl
    exact some (List.eq_nil_iff_forall_not_mem.mpr fun item inside =>
      List.not_mem_nil ((same item).mp inside))
  have fits' : ∀ item ∈ others, Braces.Balanced item ∧ Braces.InnerCommas item :=
    fun item inside => fits item ((same item).mpr inside)
  intro text
  rw [Braces.expand_append balanced, Braces.expand_append balanced,
    Braces.expand_alternatives some fits, Braces.expand_alternatives some' fits']
  simp only [List.mem_map, List.mem_flatMap, same]

/-- The files of a pattern are in strict order, and they are those that its alternatives lead to
without the ignored ones, whatever the order of the alternatives is, however often they lead to a
file and whether they start with a dot. Resolving fails only for an alternative that is not well
written. -/
theorem resolve_exact (compiled : IgnoreEntry.ofTexts ignores = .ok entries) (disk : Disk)
    (extensions : List Text) :
    (∀ pattern, (∀ alternative ∈ Braces.expand pattern, disk.IsReadable alternative) →
      ∃ files, disk.resolve pattern ignores extensions = .ok files) ∧
    (∀ pattern files, disk.resolve pattern ignores extensions = .ok files →
      files.Pairwise Path.Before ∧
        ∀ path, path ∈ files ↔ disk.IsWanted pattern entries extensions path) ∧
    (∀ pattern before alternative after e,
      Braces.expand pattern = before ++ alternative :: after →
      (∀ earlier ∈ before, disk.IsReadable earlier) → Glob.isPattern alternative = true →
      disk.glob alternative = .error e →
        disk.resolve pattern ignores extensions = .error (.globInvalid alternative e)) ∧
    (∀ pattern other, SameAlternatives pattern other → ∀ files,
      disk.resolve pattern ignores extensions = .ok files ↔
        disk.resolve other ignores extensions = .ok files) ∧
    ∀ front items others back, Braces.Balanced front → items ≠ [] →
      (∀ item ∈ items, Braces.Balanced item ∧ Braces.InnerCommas item) →
      (∀ item, item ∈ items ↔ item ∈ others) → ∀ files,
        disk.resolve (front ++ ('\x7b' :: Text.joinWith [','] items ++ '\x7d' :: back)) ignores
            extensions = .ok files ↔
          disk.resolve (front ++ ('\x7b' :: Text.joinWith [','] others ++ '\x7d' :: back)) ignores
            extensions = .ok files := by
  have congr (pattern other : Text) (same : SameAlternatives pattern other) (files : List Path) :
      disk.resolve pattern ignores extensions = .ok files ↔
        disk.resolve other ignores extensions = .ok files := by
    rw [resolve_eq_ok_iff compiled, resolve_eq_ok_iff compiled, isReadable_congr same]
    simp only [isWanted_congr same]
  refine ⟨fun pattern readable => ?_, fun pattern files resolved =>
    ((resolve_eq_ok_iff compiled).mp resolved).2,
    fun pattern before alternative after e split readable wild fails =>
      resolve_eq_error compiled split readable wild fails, congr,
    fun front items others back balanced some fits same =>
      congr _ _ (sameAlternatives_group balanced some fits same back)⟩
  obtain ⟨files, resolved, -⟩ := exists_resolve disk extensions compiled readable
  exact ⟨files, resolved⟩

/-- A directory of sources with a page, a page below, and one that is ignored. -/
def sources : Disk where
  tree := ⟨[(["src".toList], .directory), (["src".toList, "a.html".toList], .file none),
    (["src".toList, "b.html".toList], .file none), (["src".toList, "home".toList], .directory),
    (["src".toList, "home".toList, "c.html".toList], .file none),
    (["src".toList, "d.txt".toList], .file none)]⟩
  directory := []

theorem resolve_exact_sources :
    IgnoreEntry.ofTexts ["src/b.html".toList] =
        .ok [.under [.name "src".toList, .name "b.html".toList]] ∧
      SameAlternatives "\x7b./src/*.html,src\x7d".toList "\x7bsrc,src,src/*.html\x7d".toList ∧
      (∃ files,
        sources.resolve "\x7b./src/*.html,src\x7d".toList ["src/b.html".toList] ["html".toList] =
          .ok files ∧
        sources.resolve "\x7bsrc,src,src/*.html\x7d".toList ["src/b.html".toList] ["html".toList] =
          .ok files ∧
        files.Pairwise Path.Before ∧ [.name "src".toList, .name "a.html".toList] ∈ files ∧
        [.name "src".toList, .name "home".toList, .name "c.html".toList] ∈ files ∧
        [.name "src".toList, .name "b.html".toList] ∉ files) ∧
      sources.resolve "\x7bsrc,***\x7d".toList ["src/b.html".toList] ["html".toList] =
        .error (.globInvalid "***".toList ⟨.starsTooMany, 2⟩) := by
  have compiled : IgnoreEntry.ofTexts ["src/b.html".toList] =
      .ok [.under [.name "src".toList, .name "b.html".toList]] := by decide +kernel
  have same : SameAlternatives "\x7b./src/*.html,src\x7d".toList
      "\x7bsrc,src,src/*.html\x7d".toList := by
    have dotted : (Braces.expand "\x7b./src/*.html,src\x7d".toList).map undotted =
      ["src/*.html".toList, "src".toList] := by decide +kernel
    have plain : (Braces.expand "\x7bsrc,src,src/*.html\x7d".toList).map undotted =
      ["src".toList, "src".toList, "src/*.html".toList] := by decide +kernel
    intro text
    rw [dotted, plain]
    simp only [List.mem_cons, List.not_mem_nil]
    tauto
  have plain : sources.IsReadable "src".toList := fun wild => absurd wild (by decide)
  have readable : ∀ alternative ∈ Braces.expand "\x7b./src/*.html,src\x7d".toList,
      sources.IsReadable alternative := by
    have split : Braces.expand "\x7b./src/*.html,src\x7d".toList =
        ["./src/*.html".toList, "src".toList] := by decide
    rw [split, List.forall_mem_cons, List.forall_mem_singleton]
    exact ⟨fun _ => exists_eq_ok (by decide +kernel), plain⟩
  have located : sources.tree.locate sources.directory "src".toList = .ok ["src".toList] := rfl
  have leads (names : List Text) (name : Text) (last : names.getLast? = some name)
      (listed : ("src".toList :: names, .file none) ∈ sources.tree.entries)
      (ending : HasEnding ["html".toList] name) :
      sources.LeadsTo ["html".toList] "src".toList (.name "src".toList :: names.map .name) :=
    ⟨_, .written (by decide) located (by decide +kernel),
      .below (by decide +kernel) listed (by simp) last ending⟩
  obtain ⟨resolves, exact, fails, congr, -⟩ := resolve_exact compiled sources ["html".toList]
  obtain ⟨files, resolved⟩ := resolves _ readable
  obtain ⟨sorted, wanted⟩ := exact _ _ resolved
  refine ⟨compiled, same, ⟨files, resolved, (congr _ _ same files).mp resolved, sorted,
    (wanted _).mpr ⟨by decide +kernel, "src".toList, by decide +kernel,
      leads ["a.html".toList] _ rfl (by decide +kernel) ⟨"a".toList, "html".toList, by decide⟩⟩,
    (wanted _).mpr ⟨by decide +kernel, "src".toList, by decide +kernel,
      leads ["home".toList, "c.html".toList] _ rfl (by decide +kernel)
        ⟨"c".toList, "html".toList, by decide⟩⟩,
    fun inside => ?_⟩, ?_⟩
  · have kept := ((wanted _).mp inside).1 _ List.mem_cons_self
    exact absurd kept (by decide +kernel)
  · exact fails _ ["src".toList] _ [] _ (by decide +kernel) (List.forall_mem_singleton.mpr plain)
      (by decide) (by decide +kernel)

end

end Disk

end LocaleLint
