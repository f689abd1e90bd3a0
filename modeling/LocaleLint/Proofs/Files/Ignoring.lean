import Mathlib
import LocaleLint.Proofs.Files.Addresses
import LocaleLint.Proofs.Text.Lists

/-!
# How ignored paths have to be written

An entry that is a path ignores what its steps lead to, step by step as they are written. So a
relative entry ignores files that a pattern reaches on relative paths, and the same entry written
from the root ignores files that are reached from the root; neither of them ignores what the other one
does, although both lead to the same address.
-/

namespace LocaleLint

open Text (joinWith)

/-- A name without a meaning of its own in a pattern. -/
def IsPlainName (name : Text) : Prop :=
  name ≠ [] ∧ name ≠ ['.'] ∧ name ≠ ['.', '.'] ∧ ∀ c ∈ ['/', '*', '?', '\x7b'], c ∉ name

-- It is decided over the four characters; by itself Lean would go through all that there are.
instance (name : Text) : Decidable (IsPlainName name) :=
  haveI : Decidable (∀ c ∈ ['/', '*', '?', '\x7b'], c ∉ name) := List.decidableBAll _ _
  inferInstanceAs (Decidable (_ ∧ _ ∧ _ ∧ _))

namespace IgnoreEntry

/-- A text is a path from the working directory to something else, and one entry without wildcards. -/
structure IsRelative (entry : Text) : Prop where
  relative : entry.head? ≠ some '/'
  filled : (Path.ofText entry).normalize ≠ []
  single : Braces.expand entry = [entry]
  plain : Glob.isPattern entry = false

/-- An entry behind the names of a directory, as a path from the root. -/
def behind (directory : Address) (entry : Text) : Text :=
  '/' :: (directory.flatMap (· ++ ['/']) ++ entry)

variable {entry : Text} {directory : Address} {entries : List IgnoreEntry} {path : Path}

theorem covers_under {above : Path} : (under above).covers path = true ↔ above <+: path :=
  List.isPrefixOf_iff_prefix

theorem IsRelative.normalize_ofText (relative : IsRelative entry) :
    (Path.ofText entry).normalize = (Text.splitOn '/' entry).flatMap PathStep.ofPart := by
  refine Eq.trans ?_ (Path.isInner_parts _).normalize_eq
  unfold Path.ofText
  split
  · exact absurd rfl relative.relative
  · rfl
  · rfl
  · rfl

theorem ofTexts_relative (relative : IsRelative entry) :
    ofTexts [entry] = .ok [under (Path.ofText entry).normalize] := by
  have alone : ofText entry = .ok (under (Path.ofText entry).normalize) := by
    simp [ofText, relative.plain]
  rw [ofTexts, List.flatMap_singleton, relative.single, List.mapM_cons, alone]
  rfl

theorem text_of_mem_ofPart {part : Text} {step : PathStep} (inside : step ∈ PathStep.ofPart part) :
    step.text = part ∧ part ≠ [] := by
  unfold PathStep.ofPart at inside
  split at inside
  · cases inside
  · next filled =>
    have filled : part ≠ [] := fun none => filled (.inl none)
    split at inside
    · next up =>
      cases List.mem_singleton.mp inside
      exact ⟨up.symm, filled⟩
    · cases List.mem_singleton.mp inside
      exact ⟨rfl, filled⟩

/-- What a relative entry ignores is written without a slash in front. -/
theorem head_of_covers_relative (relative : IsRelative entry)
    (covered : (under (Path.ofText entry).normalize).covers path = true) :
    path.toText.head? ≠ some '/' := by
  obtain ⟨more, rfl⟩ := covers_under.mp covered
  have steps := relative.normalize_ofText
  obtain ⟨step, rest, begins⟩ := List.exists_cons_of_ne_nil relative.filled
  rw [begins] at steps ⊢
  obtain ⟨part, listed, inside⟩ := List.mem_flatMap.mp (steps ▸ List.mem_cons_self)
  obtain ⟨written, filled⟩ := text_of_mem_ofPart inside
  have clean := Text.notMem_of_mem_splitOn listed
  obtain ⟨c, part, rfl⟩ := List.exists_cons_of_ne_nil filled
  have text : Path.toText (step :: rest ++ more) =
      joinWith ['/'] ((c :: part) :: (rest ++ more).map PathStep.text) := by
    rw [List.cons_append, Path.toText.eq_def, ← written]
    cases step with
    | root => exact absurd rfl (Path.isInner_parts _ _ (List.mem_flatMap.mpr ⟨_, listed, inside⟩)).1
    | here | up | name => rfl
  have head : (Path.toText (step :: rest ++ more)).head? = some c := by
    rw [text]
    cases rest ++ more <;> rfl
  rw [head]
  exact fun same => clean (Option.some.inj same ▸ List.mem_cons_self)

/-- What an entry from the root ignores is written with a slash in front. -/
theorem head_of_covers_absolute {rest : Text} {ignored : IgnoreEntry}
    (compiled : ofText ('/' :: rest) = .ok ignored) (covered : ignored.covers path = true) :
    path.toText.head? = some '/' := by
  obtain ⟨more, absolute⟩ : ∃ more, (Path.ofText ('/' :: rest)).normalize = .root :: more := ⟨_, rfl⟩
  unfold ofText at compiled
  rw [absolute] at compiled
  dsimp only at compiled
  split at compiled
  · split at compiled
    · next glob read =>
      cases compiled
      obtain ⟨tokens, tokenized, rfl⟩ := map_eq_ok.mp read
      have slash := Glob.readTokens_literal (by decide : '/' ≠ '?' ∧ '/' ≠ '*' ∧ '/' ≠ '[')
        (joinWith ['/'] (more.map PathStep.text)).length 0 true
        (joinWith ['/'] (more.map PathStep.text))
      obtain ⟨tokens, -, rfl⟩ := map_eq_ok.mp (slash.symm.trans tokenized)
      change Glob.tokensMatch (.literal '/' :: tokens) path.toText = true at covered
      cases written : path.toText with
      | nil => simp [written, Glob.tokensMatch] at covered
      | cons c text =>
        rw [written, Glob.tokensMatch, Bool.and_eq_true, beq_iff_eq] at covered
        exact congrArg some covered.1
    · cases compiled
  · cases compiled
    obtain ⟨others, rfl⟩ := covers_under.mp covered
    rfl

/-- Nothing is ignored both by a relative entry and by the same entry from the root. -/
theorem not_covers_both (relative : IsRelative entry)
    (compiled : ofTexts [behind directory entry] = .ok entries)
    (covered : (under (Path.ofText entry).normalize).covers path = true) :
    ∀ ignored ∈ entries, ignored.covers path = false := by
  intro ignored inside
  rw [ofTexts, List.flatMap_singleton] at compiled
  obtain ⟨text, listed, read⟩ := exists_of_forall₂ (mapM_eq_ok.mp compiled).flip inside
  rw [behind, ← List.singleton_append, Braces.expand_append_plain (by decide)] at listed
  obtain ⟨rest, -, rfl⟩ := List.mem_map.mp listed
  exact Bool.eq_false_iff.mpr fun both =>
    head_of_covers_relative relative covered (head_of_covers_absolute read both)

/-- What a relative entry and the same entry from the root agree on is what neither of them
ignores. -/
theorem ignores_none_iff (relative : IsRelative entry)
    (compiled : ofTexts [behind directory entry] = .ok entries) :
    ((∀ ignored ∈ [under (Path.ofText entry).normalize], ignored.covers path = false) ↔
        ∀ ignored ∈ entries, ignored.covers path = false) ↔
      ∀ ignored ∈ under (Path.ofText entry).normalize :: entries, ignored.covers path = false := by
  rw [List.forall_mem_singleton, List.forall_mem_cons]
  cases covered : (under (Path.ofText entry).normalize).covers path with
  | false => simp
  | true => simpa using not_covers_both relative compiled covered

section

variable (named : ∀ name ∈ directory, IsPlainName name)
include named

theorem notMem_behind {c : Char} (special : c ∈ ['*', '?', '\x7b']) (clean : c ∉ entry) :
    c ∉ behind directory entry := by
  intro inside
  have other : c ≠ '/' := by
    rintro rfl
    exact absurd special (by decide)
  rcases List.mem_append.mp ((List.mem_cons.mp inside).resolve_left other) with inside | inside
  · obtain ⟨name, listed, inside⟩ := List.mem_flatMap.mp inside
    rcases List.mem_append.mp inside with inside | inside
    · exact (named name listed).2.2.2 c (List.mem_cons_of_mem _ special) inside
    · exact other (List.mem_singleton.mp inside)
  · exact clean inside

theorem splitOn_behind :
    Text.splitOn '/' (behind directory entry) = [] :: (directory ++ Text.splitOn '/' entry) := by
  have names : Text.splitOn '/' (directory.flatMap (· ++ ['/']) ++ entry) =
      directory ++ Text.splitOn '/' entry := by
    induction directory with
    | nil => rfl
    | cons name names ih =>
      obtain ⟨plain, others⟩ := List.forall_mem_cons.mp named
      rw [List.flatMap_cons, List.append_assoc, List.append_assoc, List.singleton_append,
        Text.splitOn_append (plain.2.2.2 '/' List.mem_cons_self), ih others]
      rfl
  rw [behind, ← names]
  rfl

theorem normalize_behind (relative : IsRelative entry) :
    (Path.ofText (behind directory entry)).normalize =
      .root :: (directory.map .name ++ (Path.ofText entry).normalize) := by
  have names : directory.flatMap PathStep.ofPart = directory.map .name := by
    rw [List.flatMap_congr (fun name listed => ?_), ← List.map_eq_flatMap]
    obtain ⟨filled, dot, dots, -⟩ := named name listed
    simp [PathStep.ofPart, filled, dot, dots]
  have steps : Path.ofText (behind directory entry) =
      .root :: (Text.splitOn '/' (behind directory entry)).flatMap PathStep.ofPart := rfl
  have clean : Path.normalize (Path.ofText entry).normalize = (Path.ofText entry).normalize := by
    simp [Path.normalize]
  have empty : PathStep.ofPart [] = [] := rfl
  rw [steps, splitOn_behind named, List.flatMap_cons, List.flatMap_append, names,
    ← relative.normalize_ofText, empty, List.nil_append]
  exact congrArg (PathStep.root :: ·)
    ((Path.normalize_append _ _).trans (congrArg₂ _ (Path.normalize_names directory) clean))

/-- Below a directory with plain names the entry from the root is a path as well. -/
theorem ofTexts_behind (relative : IsRelative entry) :
    ofTexts [behind directory entry] =
      .ok [under (.root :: (directory.map .name ++ (Path.ofText entry).normalize))] := by
  have isPattern_iff (text : Text) : Glob.isPattern text = false ↔ '*' ∉ text ∧ '?' ∉ text := by
    simp [Glob.isPattern]
  have plain : Glob.isPattern (behind directory entry) = false := by
    obtain ⟨star, question⟩ := (isPattern_iff entry).mp relative.plain
    exact (isPattern_iff _).mpr
      ⟨notMem_behind named (by decide) star, notMem_behind named (by decide) question⟩
  have single : Braces.expand (behind directory entry) = [behind directory entry] := by
    have front : behind directory entry = behind directory [] ++ entry := by simp [behind]
    rw [front, Braces.expand_append_plain (notMem_behind named (by decide) List.not_mem_nil),
      relative.single, List.map_singleton]
  rw [ofTexts, List.flatMap_singleton, single, List.mapM_cons, ofText, plain, normalize_behind named relative]
  rfl

end

/-- A relative entry without steps upward is made of names. -/
theorem IsRelative.exists_names (relative : IsRelative entry) (down : .up ∉ Path.ofText entry) :
    ∃ names : List Text, (Path.ofText entry).normalize = names.map .name := by
  obtain ⟨names, steps | steps⟩ := (Path.walks_ofText entry).normalize.eq_names
    (Path.here_notMem_normalize _) fun up => down (List.mem_of_mem_filter up)
  · exact ⟨names, steps⟩
  · have root : PathStep.root ∈ (Path.ofText entry).normalize := steps ▸ List.mem_cons_self
    rw [relative.normalize_ofText] at root
    exact absurd rfl (Path.isInner_parts _ _ root).1

/-- A path without steps upward is ignored by a relative entry if it is relative and leads below the
entry, and by the entry from the root if it is absolute and leads below the entry. -/
theorem covers_iff_below (relative : IsRelative entry) (down : .up ∉ Path.ofText entry)
    (walks : path.Walks) (clean : .here ∉ path) (pathDown : .up ∉ path) :
    ((under (Path.ofText entry).normalize).covers path = true ↔ path.head? ≠ some .root ∧
      (Path.ofText entry).addressFrom directory <+: path.addressFrom directory) ∧
    ((under (.root :: (directory.map .name ++ (Path.ofText entry).normalize))).covers path = true ↔
      path.head? = some .root ∧
      (Path.ofText entry).addressFrom directory <+: path.addressFrom directory) := by
  have injective : Function.Injective PathStep.name := fun _ _ same => PathStep.name.inj same
  obtain ⟨names, steps⟩ := relative.exists_names down
  have target : (Path.ofText entry).addressFrom directory = directory ++ names := by
    rw [← Path.addressFrom_normalize, steps, Path.addressFrom_names]
  have filled : names ≠ [] := by
    rintro rfl
    exact relative.filled steps
  rw [covers_under, covers_under, target, steps]
  obtain ⟨others, rfl | rfl⟩ := walks.eq_names clean pathDown
  · have head : List.head? (others.map PathStep.name) ≠ some .root := by
      cases others <;> simp
    rw [Path.addressFrom_names, List.prefix_append_right_inj,
      List.prefix_map_iff_of_injective injective]
    refine ⟨(and_iff_right head).symm, iff_of_false (fun ⟨more, same⟩ => head ?_)
      fun both => head both.1⟩
    rw [← same]
    rfl
  · have address : Path.addressFrom directory (.root :: others.map PathStep.name) = others :=
      @Path.addressFrom_names [] others
    rw [address, ← List.map_append, List.cons_prefix_cons,
      List.prefix_map_iff_of_injective injective]
    refine ⟨iff_of_false (fun below => ?_) fun both => both.1 rfl,
      ⟨fun below => ⟨rfl, below.2⟩, fun below => ⟨rfl, below.2⟩⟩⟩
    obtain ⟨name, names, rfl⟩ := List.exists_cons_of_ne_nil filled
    cases (List.cons_prefix_cons.mp below).1

end IgnoreEntry

namespace Disk

/-- A pattern can be read: each of its alternatives can. -/
def Reads (disk : Disk) (pattern : Text) : Prop :=
  ∀ alternative ∈ Braces.expand pattern, disk.IsReadable alternative

/-- A pattern leads to a path: one of its alternatives does. -/
def Finds (disk : Disk) (pattern : Text) (extensions : List Text) (path : Path) : Prop :=
  ∃ alternative ∈ Braces.expand pattern, disk.LeadsTo extensions alternative path

variable {disk : Disk} {pattern entry : Text} {extensions : List Text} {path : Path}
  {entries : List IgnoreEntry}

/-- Two lists of entries leave the same files exactly if they ignore the same ones of those that the
pattern leads to. -/
theorem resolve_same_iff {ignores others : List Text} {otherEntries : List IgnoreEntry}
    (compiled : IgnoreEntry.ofTexts ignores = .ok entries)
    (compiled' : IgnoreEntry.ofTexts others = .ok otherEntries) :
    (∃ files, disk.resolve pattern ignores extensions = .ok files ∧
        disk.resolve pattern others extensions = .ok files) ↔
      disk.Reads pattern ∧ ∀ path, disk.Finds pattern extensions path →
        ((∀ ignored ∈ entries, ignored.covers path = false) ↔
          ∀ ignored ∈ otherEntries, ignored.covers path = false) := by
  constructor
  · rintro ⟨files, first, second⟩
    obtain ⟨reads, -, wanted⟩ := (resolve_eq_ok_iff compiled).mp first
    obtain ⟨-, -, wanted'⟩ := (resolve_eq_ok_iff compiled').mp second
    refine ⟨reads, fun path finds => ?_⟩
    have same := (wanted path).symm.trans (wanted' path)
    exact ⟨fun free => (same.mp ⟨free, finds⟩).1, fun free => (same.mpr ⟨free, finds⟩).1⟩
  · rintro ⟨reads, same⟩
    obtain ⟨files, first, sorted, wanted⟩ := exists_resolve disk extensions compiled reads
    refine ⟨files, first, (resolve_eq_ok_iff compiled').mpr ⟨reads, sorted, fun path => ?_⟩⟩
    rw [wanted path]
    exact ⟨fun ⟨free, finds⟩ => ⟨(same path finds).mp free, finds⟩,
      fun ⟨free, finds⟩ => ⟨(same path finds).mpr free, finds⟩⟩

/-- A path that a pattern leads to is that of a file, and if it has no steps upward, then where it leads
and whether it starts at the root say by which way to write an entry it is ignored. -/
theorem Finds.covers_iff (finds : disk.Finds pattern extensions path)
    (relative : IgnoreEntry.IsRelative entry) (down : .up ∉ Path.ofText entry)
    (pathDown : .up ∉ path) :
    (∃ file, (path.addressFrom disk.directory, file) ∈ disk.tree.entries ∧ file ≠ .directory) ∧
    ((IgnoreEntry.under (Path.ofText entry).normalize).covers path = true ↔
      path.head? ≠ some .root ∧
      (Path.ofText entry).addressFrom disk.directory <+: path.addressFrom disk.directory) ∧
    ((IgnoreEntry.under (.root ::
          (disk.directory.map .name ++ (Path.ofText entry).normalize))).covers path = true ↔
      path.head? = some .root ∧
      (Path.ofText entry).addressFrom disk.directory <+: path.addressFrom disk.directory) := by
  obtain ⟨alternative, -, leads⟩ := finds
  obtain ⟨listed, walks, clean⟩ := leads.listed
  exact ⟨listed, IgnoreEntry.covers_iff_below relative down walks clean pathDown⟩

/-- A relative entry and the same entry from the working directory leave the same files exactly if the
pattern leads to no path that either of them ignores. Of the files below the entry, written without
steps upward, the relative entry takes away those that the pattern reaches on a relative path, and the
entry from the root takes away those that it reaches from the root: so they leave the same files
exactly if the pattern leads to none below the entry at all. -/
theorem resolve_behind_iff (disk : Disk) (relative : IgnoreEntry.IsRelative entry) :
    (∀ pattern extensions,
      (∃ files, disk.resolve pattern [entry] extensions = .ok files ∧
        disk.resolve pattern [IgnoreEntry.behind disk.directory entry] extensions = .ok files) ↔
      disk.Reads pattern ∧
        ∃ entries, IgnoreEntry.ofTexts [IgnoreEntry.behind disk.directory entry] = .ok entries ∧
          ∀ path, disk.Finds pattern extensions path →
            ∀ ignored ∈ .under (Path.ofText entry).normalize :: entries,
              ignored.covers path = false) ∧
    ((∀ name ∈ disk.directory, IsPlainName name) → .up ∉ Path.ofText entry →
      ∀ pattern extensions, disk.Reads pattern →
        (∃ files others, disk.resolve pattern [entry] extensions = .ok files ∧
          disk.resolve pattern [IgnoreEntry.behind disk.directory entry] extensions = .ok others ∧
          ∀ path, disk.Finds pattern extensions path → .up ∉ path →
            (∃ file, (path.addressFrom disk.directory, file) ∈ disk.tree.entries ∧
              file ≠ .directory) ∧
            (path ∈ files ↔ path.head? = some .root ∨
              ¬ (Path.ofText entry).addressFrom disk.directory <+:
                path.addressFrom disk.directory) ∧
            (path ∈ others ↔ path.head? ≠ some .root ∨
              ¬ (Path.ofText entry).addressFrom disk.directory <+:
                path.addressFrom disk.directory)) ∧
        ((∀ path, disk.Finds pattern extensions path → .up ∉ path) →
          ((∃ files, disk.resolve pattern [entry] extensions = .ok files ∧
            disk.resolve pattern [IgnoreEntry.behind disk.directory entry] extensions = .ok files) ↔
          ∀ path, disk.Finds pattern extensions path →
            ¬ (Path.ofText entry).addressFrom disk.directory <+:
              path.addressFrom disk.directory))) := by
  have compiled := IgnoreEntry.ofTexts_relative relative
  refine ⟨fun pattern extensions => ⟨fun ⟨files, first, second⟩ => ?_, ?_⟩,
    fun named down pattern extensions reads => ?_⟩
  · obtain ⟨entries, compiled', -⟩ := bind_eq_ok.mp second
    obtain ⟨reads, same⟩ := (resolve_same_iff compiled compiled').mp ⟨files, first, second⟩
    exact ⟨reads, entries, compiled', fun path finds =>
      (IgnoreEntry.ignores_none_iff relative compiled').mp (same path finds)⟩
  · rintro ⟨reads, entries, compiled', none⟩
    exact (resolve_same_iff compiled compiled').mpr ⟨reads, fun path finds =>
      (IgnoreEntry.ignores_none_iff relative compiled').mpr (none path finds)⟩
  · have compiled' := IgnoreEntry.ofTexts_behind named relative
    obtain ⟨files, first, -, wanted⟩ := exists_resolve disk extensions compiled reads
    obtain ⟨others, second, -, wanted'⟩ := exists_resolve disk extensions compiled' reads
    refine ⟨⟨files, others, first, second, fun path finds pathDown => ?_⟩, fun allDown => ?_⟩
    · obtain ⟨listed, covers, covers'⟩ := finds.covers_iff relative down pathDown
      refine ⟨listed, ?_, ?_⟩
      · rw [wanted path, IsWanted, List.forall_mem_singleton, ← Bool.not_eq_true, covers,
          not_and_or, not_not]
        exact and_iff_left finds
      · rw [wanted' path, IsWanted, List.forall_mem_singleton, ← Bool.not_eq_true, covers',
          not_and_or]
        exact and_iff_left finds
    · rw [resolve_same_iff compiled compiled', and_iff_right reads]
      refine forall_congr' fun path => imp_congr_right fun finds => ?_
      obtain ⟨-, covers, covers'⟩ := finds.covers_iff relative down (allDown path finds)
      rw [IgnoreEntry.ignores_none_iff relative compiled', List.forall_mem_cons,
        List.forall_mem_singleton, ← Bool.not_eq_true, ← Bool.not_eq_true, covers, covers',
        ← not_or, ← or_and_right]
      exact not_congr (and_iff_right (ne_or_eq _ _))

/-- A page and a generated one below the working directory. -/
def generated : Disk where
  tree := ⟨[(["work".toList], .directory), (["work".toList, "src".toList], .directory),
    (["work".toList, "src".toList, "home.html".toList], .file none),
    (["work".toList, "src".toList, "gen".toList], .directory),
    (["work".toList, "src".toList, "gen".toList, "a.html".toList], .file none)]⟩
  directory := ["work".toList]

theorem resolve_behind_iff_generated :
    IgnoreEntry.IsRelative "src/gen".toList ∧ (∀ name ∈ generated.directory, IsPlainName name) ∧
      .up ∉ Path.ofText "src/gen".toList ∧ generated.Reads "src".toList ∧
      (∃ files others,
        generated.resolve "src".toList ["src/gen".toList] ["html".toList] = .ok files ∧
        generated.resolve "src".toList
          [IgnoreEntry.behind generated.directory "src/gen".toList] ["html".toList] = .ok others ∧
        [.name "src".toList, .name "home.html".toList] ∈ files ∧
        [.name "src".toList, .name "gen".toList, .name "a.html".toList] ∉ files ∧
        [.name "src".toList, .name "gen".toList, .name "a.html".toList] ∈ others) ∧
      ¬ ∃ files, generated.resolve "src".toList ["src/gen".toList] ["html".toList] = .ok files ∧
        generated.resolve "src".toList
          [IgnoreEntry.behind generated.directory "src/gen".toList] ["html".toList] = .ok files := by
  have relative : IgnoreEntry.IsRelative "src/gen".toList :=
    ⟨by decide, by decide, by decide, by decide⟩
  have named : ∀ name ∈ generated.directory, IsPlainName name := by decide
  have down : .up ∉ Path.ofText "src/gen".toList := by decide
  have alone : Braces.expand "src".toList = ["src".toList] := by decide
  have reads : generated.Reads "src".toList := by
    rw [Reads, alone, List.forall_mem_singleton]
    exact fun wild => absurd wild (by decide)
  have finds (names : List Text) (name : Text) (last : names.getLast? = some name)
      (listed : ("work".toList :: "src".toList :: names, .file none) ∈ generated.tree.entries)
      (ending : HasEnding ["html".toList] name) :
      generated.Finds "src".toList ["html".toList] (.name "src".toList :: names.map .name) :=
    ⟨"src".toList, by rw [alone]; exact List.mem_singleton_self _, _,
      .written (by decide) (rfl : generated.tree.locate generated.directory "src".toList =
        .ok ["work".toList, "src".toList]) (by decide +kernel),
      .below (by decide +kernel) listed (by simp) last ending⟩
  obtain ⟨exact, byAddress⟩ := resolve_behind_iff generated relative
  obtain ⟨⟨files, others, first, second, each⟩, -⟩ :=
    byAddress named down "src".toList ["html".toList] reads
  have home := finds ["home.html".toList] _ rfl (by decide +kernel)
    ⟨"home".toList, "html".toList, by decide⟩
  have page := finds ["gen".toList, "a.html".toList] _ rfl (by decide +kernel)
    ⟨"a".toList, "html".toList, by decide⟩
  refine ⟨relative, named, down, reads, ⟨files, others, first, second, ?_, ?_, ?_⟩, fun same => ?_⟩
  · exact (each _ home (by decide)).2.1.mpr (.inr (by decide))
  · exact fun inside => absurd ((each _ page (by decide)).2.1.mp inside) (by decide)
  · exact (each _ page (by decide)).2.2.mpr (.inl (by decide))
  · obtain ⟨-, entries, -, none⟩ := (exact _ _).mp same
    exact absurd (none _ page _ List.mem_cons_self) (by decide)

/-- A file below the entry is found where only one of the pattern and the entry starts at the root. -/
theorem resolve_behind_ne :
    IgnoreEntry.IsRelative "src/gen".toList ∧
      IgnoreEntry.behind generated.directory "src/gen".toList = "/work/src/gen".toList ∧
      generated.resolve "src/gen".toList ["src/gen".toList] ["html".toList] = .ok [] ∧
      generated.resolve "src/gen".toList ["/work/src/gen".toList] ["html".toList] =
        .ok [[.name "src".toList, .name "gen".toList, .name "a.html".toList]] ∧
      generated.resolve "/work/src/gen".toList ["src/gen".toList] ["html".toList] =
        .ok [[.root, .name "work".toList, .name "src".toList, .name "gen".toList,
          .name "a.html".toList]] ∧
      generated.resolve "/work/src/gen".toList ["/work/src/gen".toList] ["html".toList] = .ok [] :=
  ⟨⟨by decide, by decide, by decide, by decide⟩, by decide, by decide +kernel, by decide +kernel,
    by decide +kernel, by decide +kernel⟩

end Disk

end LocaleLint
