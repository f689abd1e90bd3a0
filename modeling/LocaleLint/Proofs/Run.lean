import Mathlib
import LocaleLint.Proofs.Files.Writing
import LocaleLint.Proofs.Fix.Entries

/-!
# What a run over a disk leaves

Settings that make no sense fail before the disk is looked at. Whatever else fails does so before
anything is written, but for the writing itself: that fails at the first language file that is to be
rewritten and is locked.
-/

namespace LocaleLint

/-- A plan rewrites only documents that it is given. -/
theorem Fix.path_mem_of_plan {findings : List Finding} {documents rewrites : List Document}
    (planned : Fix.plan findings documents = .ok rewrites) {rewrite : Document}
    (inside : rewrite ∈ rewrites) : ∃ document ∈ documents, document.path = rewrite.path := by
  obtain ⟨cleaned, each, made⟩ := bind_eq_ok.mp planned
  cases made
  obtain ⟨_, listed, rfl⟩ := List.mem_filterMap.mp inside
  obtain ⟨⟨path, keys⟩, -, cleans⟩ := exists_of_forall₂ (mapM_eq_ok.mp each).flip listed
  dsimp only at cleans
  split at cleans
  · cases cleans
  · next document found =>
    obtain ⟨editor, -, kept⟩ := bind_eq_ok.mp cleans
    have some := Except.ok.inj kept
    split at some
    · cases some
      exact ⟨document, List.mem_of_find?_eq_some found, rfl⟩
    · cases some

namespace Lint

theorem run_of_invalid {settings : Settings} {failure : Failure}
    (invalid : validate settings = .error failure) (disk : Disk) :
    run settings disk = (.error failure, disk.tree) := by
  rw [run, plan, load, invalid]
  rfl

/-- Settings are validated path by path, and then their rules. -/
theorem validate_eq (settings : Settings) :
    validate settings =
      if Text.isBlank settings.project then .error (.pathMissing .project)
      else if Text.isBlank settings.languages then .error (.pathMissing .languages)
      else settings.rules.validate := by
  unfold validate
  cases Text.isBlank settings.project <;> cases Text.isBlank settings.languages <;> rfl

/-- The language files of a run are there. -/
theorem hasFile_of_load {settings : Settings} {disk : Disk} {inputs : Inputs}
    (loaded : load settings disk = .ok inputs) {document : Document}
    (inside : document ∈ inputs.languages) :
    disk.tree.HasFile disk.directory document.path := by
  obtain ⟨_, -, loaded⟩ := bind_eq_ok.mp loaded
  obtain ⟨languagePaths, -, loaded⟩ := bind_eq_ok.mp loaded
  obtain ⟨viewPaths, -, loaded⟩ := bind_eq_ok.mp loaded
  obtain ⟨languages, read, loaded⟩ := bind_eq_ok.mp loaded
  obtain ⟨views, -, made⟩ := bind_eq_ok.mp loaded
  cases made
  obtain ⟨path, -, found⟩ := exists_of_forall₂ (mapM_eq_ok.mp read).flip inside
  split at found
  · next content here =>
    cases found
    exact FileTree.hasFile_of_read here
  · cases found

/-- Files that are to be rewritten are there, and there are none unless keys are to be removed. -/
theorem hasFile_of_plan {settings : Settings} {disk : Disk} {outcome : Outcome}
    {rewrites : List Document} (planned : plan settings disk = .ok (outcome, rewrites)) :
    ∀ rewrite ∈ rewrites, settings.fixZombies = true ∧
      disk.tree.HasFile disk.directory rewrite.path := by
  obtain ⟨inputs, loaded, planned⟩ := bind_eq_ok.mp planned
  obtain ⟨_, -, planned⟩ := bind_eq_ok.mp planned
  intro rewrite inside
  split at planned
  · next fixes =>
    obtain ⟨_, made, planned⟩ := bind_eq_ok.mp planned
    cases planned
    obtain ⟨document, listed, path⟩ := Fix.path_mem_of_plan made inside
    exact ⟨fixes, path ▸ hasFile_of_load loaded listed⟩
  · cases planned
    cases inside

section

variable {directory : Address} {document : Document} {documents rest : List Document}
  {tree after : FileTree}

theorem writeAll_of_error {fault : FileFault}
    (fails : tree.write directory document.path document.content = .error fault) :
    writeAll directory (document :: rest) tree =
      (.error (.accessFailed document.path fault), tree) := by
  rw [writeAll, fails]

theorem writeAll_of_ok
    (written : tree.write directory document.path document.content = .ok after) :
    writeAll directory (document :: rest) tree =
      ((writeAll directory rest after).1.map (document.path :: ·),
        (writeAll directory rest after).2) := by
  rw [writeAll, written]

/-- Writing to files that are there changes nothing else. -/
theorem writeAll_sameFrame
    (there : ∀ document ∈ documents, tree.HasFile directory document.path) :
    (writeAll directory documents tree).2.SameFrame tree := by
  induction documents generalizing tree with
  | nil => exact .refl tree
  | cons document rest ih =>
    by_cases locked : tree.IsLocked directory document.path
    · rw [writeAll_of_error (FileTree.write_of_isLocked locked _)]
      exact .refl tree
    · obtain ⟨after, written, same⟩ :=
        FileTree.exists_write (there document List.mem_cons_self) locked document.content
      rw [writeAll_of_ok written]
      have framed := @ih after fun other inside =>
        same.hasFile_iff.mpr (there other (List.mem_cons_of_mem document inside))
      exact framed.trans same

/-- Documents are written up to the first one that cannot be written. -/
theorem writeAll_eq_error {failure : Failure}
    (failed : (writeAll directory documents tree).1 = .error failure) :
    ∃ before broken after written left fault, documents = before ++ broken :: after ∧
      writeAll directory before tree = (.ok written, left) ∧
      left.write directory broken.path broken.content = .error fault ∧
      failure = .accessFailed broken.path fault := by
  induction documents generalizing tree with
  | nil => cases failed
  | cons document rest ih =>
    cases here : tree.write directory document.path document.content with
    | error fault =>
      rw [writeAll_of_error here] at failed
      cases failed
      exact ⟨[], document, rest, [], tree, fault, rfl, rfl, here, rfl⟩
    | ok next =>
      rw [writeAll_of_ok here] at failed
      obtain ⟨before, broken, after, written, left, fault, rfl, earlier, fails, rfl⟩ :=
        ih (map_eq_error.mp failed)
      refine ⟨document :: before, broken, after, document.path :: written, left, fault, rfl, ?_,
        fails, rfl⟩
      rw [writeAll_of_ok here, earlier]
      rfl

end

/-- The rewrites that a run has planned are written up to one that cannot be written. -/
def WriteFails (settings : Settings) (disk : Disk) (failure : Failure) : Prop :=
  ∃ outcome before document after written left fault,
    plan settings disk = .ok (outcome, before ++ document :: after) ∧
      writeAll disk.directory before disk.tree = (.ok written, left) ∧
      left.write disk.directory document.path document.content = .error fault ∧
      failure = .accessFailed document.path fault

/-- A run fails where it cannot plan, or where it cannot write what it has planned. -/
theorem run_eq_error {settings : Settings} {disk : Disk} {failure : Failure}
    (failed : (run settings disk).1 = .error failure) :
    run settings disk = (.error failure, disk.tree) ∨ WriteFails settings disk failure := by
  rw [run] at failed ⊢
  cases planned : plan settings disk with
  | error other =>
    rw [planned] at failed
    cases failed
    exact .inl rfl
  | ok made =>
    obtain ⟨outcome, rewrites⟩ := made
    rw [planned] at failed
    obtain ⟨before, document, after, written, left, fault, rfl, earlier, fails, rfl⟩ :=
      writeAll_eq_error (map_eq_error.mp failed)
    exact .inr ⟨outcome, before, document, after, written, left, fault, planned, earlier, fails,
      rfl⟩

/-- Only a locked language file cannot be written, and only if keys are to be removed. -/
theorem WriteFails.isLocked {settings : Settings} {disk : Disk} {failure : Failure}
    (fails : WriteFails settings disk failure) : settings.fixZombies = true ∧
      ∃ path, disk.tree.IsLocked disk.directory path ∧ failure = .accessFailed path .denied := by
  obtain ⟨outcome, before, document, after, written, left, fault, planned, earlier, fails, rfl⟩ :=
    fails
  have there := hasFile_of_plan planned
  obtain ⟨fixes, file⟩ := there document (by simp)
  -- The earlier rewrites have changed contents only, so the path still leads to the same file.
  have same : left.SameFrame disk.tree := by
    have framed := @writeAll_sameFrame disk.directory before disk.tree fun other inside =>
      (there other (List.mem_append_left _ inside)).2
    rwa [earlier] at framed
  have locked : disk.tree.IsLocked disk.directory document.path := by
    by_contra free
    obtain ⟨next, succeeds, -⟩ := FileTree.exists_write (same.hasFile_iff.mpr file)
      (fun locked => free (same.isLocked_iff.mp locked)) document.content
    cases fails.symm.trans succeeds
  cases fails.symm.trans (FileTree.write_of_isLocked (same.isLocked_iff.mpr locked) _)
  exact ⟨fixes, document.path, locked, rfl⟩

/-- Settings without a project, without languages or with rules that are not valid fail alike on
every disk, and for the first of these reasons. A run that fails leaves the file tree as it is,
unless a planned rewrite cannot be written, and that is so for a locked file only. -/
theorem run_failures (settings : Settings) :
    (Text.isBlank settings.project = true →
      ∀ disk, run settings disk = (.error (.pathMissing .project), disk.tree)) ∧
    (Text.isBlank settings.project = false → Text.isBlank settings.languages = true →
      ∀ disk, run settings disk = (.error (.pathMissing .languages), disk.tree)) ∧
    (Text.isBlank settings.project = false → Text.isBlank settings.languages = false →
      ∀ failure, settings.rules.validate = .error failure →
        ∀ disk, run settings disk = (.error failure, disk.tree)) ∧
    ∀ disk failure, (run settings disk).1 = .error failure →
      (¬ WriteFails settings disk failure → (run settings disk).2 = disk.tree) ∧
      (WriteFails settings disk failure → settings.fixZombies = true ∧
        ∃ path, disk.tree.IsLocked disk.directory path ∧
          failure = .accessFailed path .denied) := by
  have valid := validate_eq settings
  refine ⟨fun project => ?_, fun project languages => ?_, fun project languages failure rules => ?_,
    fun disk failure failed => ⟨fun planned => ?_, WriteFails.isLocked⟩⟩
  · rw [if_pos project] at valid
    exact run_of_invalid valid
  · rw [project, if_neg Bool.false_ne_true, if_pos languages] at valid
    exact run_of_invalid valid
  · rw [project, languages, if_neg Bool.false_ne_true, if_neg Bool.false_ne_true, rules] at valid
    exact run_of_invalid valid
  · obtain unchanged | fails := run_eq_error failed
    · rw [unchanged]
    · exact absurd fails planned

/-- Settings for one view and one language file, from which keys are to be removed. -/
def fixing (project languages : String) (rules : RuleSettings) : Settings :=
  ⟨project.toList, languages.toList, [], true, rules⟩

/-- A disk with the files of two keys, where the language file is what is said. -/
def twoKeysDisk (languageFile : FileEntry) : Disk :=
  ⟨⟨[(["en.json".toList], languageFile), (["app.html".toList],
    .file (some "\x7b\x7b 'A.B' | translate \x7d\x7d".toList))]⟩, []⟩

/-- The language file of two keys, locked. -/
def lockedFile : FileEntry :=
  .locked (some "\x7b\"A\": \x7b\"B\": \"x\", \"C\": \"y\"\x7d\x7d".toList)

theorem fixing_valid : validate (fixing "app.html" "en.json" .default) = .ok () := by
  rw [validate_eq, if_neg (by decide), if_neg (by decide)]
  exact (lint_eq_ok_iff.mp twoKeys_linted).1

/-- The language file of two keys can be read although it is locked, and one that is not text
cannot. -/
theorem twoKeysDisk_load :
    load (fixing "app.html" "en.json" .default) (twoKeysDisk lockedFile) = .ok twoKeys ∧
      load (fixing "app.html" "en.json" .default) (twoKeysDisk (.file none)) =
        .error (.accessFailed "en.json".toList .notText) := by
  rw [load, load, fixing_valid]
  decide +kernel

/-- The default settings with a coefficient that is too great. -/
def excessive : RuleSettings :=
  { RuleSettings.default with misprintCoefficient := .nearest false 3 2 }

theorem excessive_invalid : excessive.validate =
    .error (.rulesInvalid "misprintCoefficient must be between 0 and 1, got 1.5".toList) := by
  decide +kernel

theorem run_failures_twoKeys :
    (∀ disk, run (fixing " " "" excessive) disk = (.error (.pathMissing .project), disk.tree)) ∧
    (∀ disk, run (fixing "app.html" "" excessive) disk =
      (.error (.pathMissing .languages), disk.tree)) ∧
    (∃ failure, ∀ disk, run (fixing "app.html" "en.json" excessive) disk =
      (.error failure, disk.tree)) ∧
    (run (fixing "app.html" "en.json" .default) (twoKeysDisk (.file none))).2 =
      (twoKeysDisk (.file none)).tree ∧
    ∃ failure, WriteFails (fixing "app.html" "en.json" .default) (twoKeysDisk lockedFile) failure ∧
      ∃ path, (twoKeysDisk lockedFile).tree.IsLocked [] path ∧
        failure = .accessFailed path .denied := by
  obtain ⟨loaded, broken⟩ := twoKeysDisk_load
  have unplanned : plan (fixing "app.html" "en.json" .default) (twoKeysDisk (.file none)) =
      .error (.accessFailed "en.json".toList .notText) := by
    rw [plan, broken]
    rfl
  have planned : plan (fixing "app.html" "en.json" .default) (twoKeysDisk lockedFile) =
      .ok (oneUnused "A.C".toList, [] ++ twoKeysFixed :: []) :=
    bind_eq_ok.mpr ⟨_, loaded, bind_eq_ok.mpr ⟨_, twoKeys_linted,
      bind_eq_ok.mpr ⟨_, twoKeys_planned, rfl⟩⟩⟩
  have unwritten : WriteFails (fixing "app.html" "en.json" .default) (twoKeysDisk lockedFile)
      (.accessFailed "en.json".toList .denied) :=
    ⟨_, [], twoKeysFixed, [], [], _, .denied, planned, rfl, rfl, rfl⟩
  refine ⟨(run_failures _).1 (by decide), (run_failures _).2.1 (by decide) (by decide),
    ⟨_, (run_failures _).2.2.1 (by decide) (by decide) _ excessive_invalid⟩,
    ((run_failures _).2.2.2 _ (.accessFailed "en.json".toList .notText) ?_).1 ?_,
    _, unwritten, (((run_failures _).2.2.2 _ _ ?_).2 unwritten).2⟩
  · rw [run, unplanned]
  · rintro ⟨_, _, _, _, _, _, _, made, -⟩
    cases unplanned.symm.trans made
  · rw [run, planned]
    rfl

end Lint

end LocaleLint
