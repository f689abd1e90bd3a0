import Mathlib
import LocaleLint.Lint
import LocaleLint.Proofs.Except
import LocaleLint.Proofs.Finding.Check
import LocaleLint.Proofs.Language.Table

/-!
# What a run over documents does

A run that succeeds has read every language file and compiled every pattern. Its findings are those
of the checks, without the ignored ones, so the zombies of a file are among its keys.
-/

namespace LocaleLint

/-- Settings are valid if the coefficient lies between zero and one, and if the patterns of the
keys to ignore compile as well as those of the references. -/
theorem RuleSettings.validate_eq_ok_iff {rules : RuleSettings} :
    rules.validate = .ok () ↔
      (Double.zero.le rules.misprintCoefficient && rules.misprintCoefficient.le .one) = true ∧
        (∃ ignored, ignorePatterns rules.ignoredKeys = .ok ignored) ∧
        ∃ pattern, KeyPattern.ofFragments (Fragment.compose [] rules.customPatterns false) =
          .ok pattern := by
  unfold validate
  by_cases between :
      (Double.zero.le rules.misprintCoefficient && rules.misprintCoefficient.le .one) = true
  · rw [if_pos between, bind_eq_ok]
    constructor
    · rintro ⟨ignored, compiled, checked⟩
      obtain ⟨pattern, made, _⟩ := bind_eq_ok.mp checked
      exact ⟨between, ⟨ignored, compiled⟩, pattern, made⟩
    · rintro ⟨_, ⟨ignored, compiled⟩, pattern, made⟩
      exact ⟨ignored, compiled, bind_eq_ok.mpr ⟨pattern, made, rfl⟩⟩
  · rw [if_neg between]
    simp [between, bind, Except.bind, throw, throwThe, MonadExceptOf.throw]

namespace Lint

/-- A scan succeeds exactly if the language files can be read and the forms of references
compile. -/
theorem scan_eq_ok_iff {rules : RuleSettings} {inputs : Inputs} {catalog : Catalog}
    {views : List View} :
    scan rules inputs = .ok (catalog, views) ↔
      List.Forall₂ (fun document file => LanguageFile.ofDocument document = .ok file)
        inputs.languages catalog.files ∧
      ∃ pattern, KeyPattern.ofFragments (fragments rules catalog) = .ok pattern ∧
        views = inputs.views.map (View.ofDocument pattern) := by
  rw [scan, bind_eq_ok]
  constructor
  · rintro ⟨read, files, compiled⟩
    obtain ⟨pattern, ok, made⟩ := bind_eq_ok.mp compiled
    cases made
    obtain ⟨list, each, rfl⟩ := map_eq_ok.mp files
    exact ⟨mapM_eq_ok.mp each, pattern, ok, rfl⟩
  · rintro ⟨each, pattern, ok, rfl⟩
    exact ⟨catalog, map_eq_ok.mpr ⟨_, mapM_eq_ok.mpr each, rfl⟩, bind_eq_ok.mpr ⟨pattern, ok, rfl⟩⟩

/-- A run succeeds exactly if the settings are valid and the scan succeeds, and gives the findings
of the checks that are not ignored. -/
theorem lint_eq_ok_iff {rules : RuleSettings} {inputs : Inputs} {outcome : Outcome} :
    lint rules inputs = .ok outcome ↔ rules.validate = .ok () ∧
      ∃ ignored catalog views, ignorePatterns rules.ignoredKeys = .ok ignored ∧
        scan rules inputs = .ok (catalog, views) ∧
        outcome = ⟨withoutIgnored ignored (Check.runAll rules.checks catalog views),
          rules.maxWarnings, []⟩ := by
  rw [lint, bind_eq_ok]
  constructor
  · rintro ⟨_, valid, linted⟩
    obtain ⟨ignored, compiled, linted⟩ := bind_eq_ok.mp linted
    obtain ⟨⟨catalog, views⟩, scanned, linted⟩ := bind_eq_ok.mp linted
    cases linted
    exact ⟨valid, ignored, catalog, views, compiled, scanned, rfl⟩
  · rintro ⟨valid, ignored, catalog, views, compiled, scanned, rfl⟩
    exact ⟨(), valid, bind_eq_ok.mpr ⟨ignored, compiled, bind_eq_ok.mpr ⟨_, scanned, rfl⟩⟩⟩

theorem lint_eq_ok {rules : RuleSettings} {inputs : Inputs} {outcome : Outcome}
    (linted : lint rules inputs = .ok outcome) :
    ∃ ignored catalog views, ignorePatterns rules.ignoredKeys = .ok ignored ∧
      scan rules inputs = .ok (catalog, views) ∧
      outcome = ⟨withoutIgnored ignored (Check.runAll rules.checks catalog views),
        rules.maxWarnings, []⟩ :=
  (lint_eq_ok_iff.mp linted).2

/-- The language files of a run that succeeds can be read. -/
theorem exists_file_of_lint {rules : RuleSettings} {inputs : Inputs} {outcome : Outcome}
    (linted : lint rules inputs = .ok outcome) {document : Document}
    (inside : document ∈ inputs.languages) :
    ∃ file value, LanguageFile.ofDocument document = .ok file ∧ document.json = .ok value := by
  obtain ⟨_, catalog, views, _, scanned, _⟩ := lint_eq_ok linted
  obtain ⟨each, _⟩ := scan_eq_ok_iff.mp scanned
  obtain ⟨file, _, read⟩ := exists_of_forall₂ each inside
  obtain ⟨value, json, _⟩ := LanguageFile.ofDocument_eq_ok_iff.mp read
  exact ⟨file, value, read, json⟩

theorem readable_of_lint {rules : RuleSettings} {inputs : Inputs} {outcome : Outcome}
    (linted : lint rules inputs = .ok outcome) :
    ∀ document ∈ inputs.languages, ∃ value, document.json = .ok value := by
  intro document inside
  obtain ⟨_, value, _, read⟩ := exists_file_of_lint linted inside
  exact ⟨value, read⟩

/-- The keys that findings call zombies of a file, in order. -/
def zombiesIn (findings : List Finding) (path : Text) : List Text :=
  (findings.filter fun f => f.rule = .zombie ∧ f.sourceFile = path).map (·.key)

theorem flatMap_of_distinct {α β : Type} {name : α → Text} {list : List α}
    (distinct : (list.map name).Nodup) {a : α} (inside : a ∈ list) (f : α → List β) :
    (list.flatMap fun b => if name b = name a then f b else []) = f a := by
  induction list with
  | nil => cases inside
  | cons b rest ih =>
    obtain ⟨fresh, distinct⟩ := List.nodup_cons.mp distinct
    rcases List.mem_cons.mp inside with rfl | later
    · have others : ∀ c ∈ rest, (if name c = name a then f c else []) = [] := by
        intro c found
        rw [if_neg]
        exact fun same => fresh (same ▸ List.mem_map_of_mem found)
      rw [List.flatMap_cons, if_pos rfl, List.flatMap_eq_nil_iff.mpr others, List.append_nil]
    · have other : name b ≠ name a := fun same => fresh (same ▸ List.mem_map_of_mem later)
      rw [List.flatMap_cons, if_neg other, List.nil_append, ih distinct later]

private theorem zombies_of_file (severity : Severity) (unused : Text → Bool)
    (ignored : List Pattern) (path : Text) (files : List LanguageFile) :
    ((((Check.entriesWith .zombie severity (fun entry => unused entry.key) files).filter fun f =>
        !isIgnored ignored f.key).filter fun f => f.sourceFile = path).map (·.key)) =
      files.flatMap fun file => if file.path = path then
        file.keys.filter fun key => unused key && !isIgnored ignored key
      else [] := by
  induction files with
  | nil => rfl
  | cons file rest ih =>
    have step : Check.entriesWith .zombie severity (fun entry => unused entry.key) (file :: rest) =
        (file.entries.filter fun entry => unused entry.key).map
          (Check.onEntry .zombie severity file) ++
          Check.entriesWith .zombie severity (fun entry => unused entry.key) rest := by
      simp [Check.entriesWith]
    rw [step, List.filter_append, List.filter_append, List.map_append, ih, List.flatMap_cons]
    congr 1
    by_cases same : file.path = path
    · simp [List.filter_map, Check.onEntry, Function.comp_def, same, LanguageFile.keys,
        Bool.and_comm]
    · simp [List.filter_map, Check.onEntry, Function.comp_def, same]

theorem paths_of_files {documents : List Document} {files : List LanguageFile}
    (read : List.Forall₂ (fun document file => LanguageFile.ofDocument document = .ok file)
      documents files) : files.map (·.path) = documents.map (·.path) := by
  induction read with
  | nil => rfl
  | cons first _ ih =>
    obtain ⟨value, _, rfl⟩ := LanguageFile.ofDocument_eq_ok_iff.mp first
    rw [List.map_cons, List.map_cons, ih, (LanguageFile.ofLeaves_spec _).1]

/-- The zombies of a file are, in order, its keys that no view refers to and that are not ignored,
unless the rule is disabled. -/
theorem exists_zombiesIn_eq {rules : RuleSettings} {inputs : Inputs} {outcome : Outcome}
    (distinct : (inputs.languages.map (·.path)).Nodup)
    (linted : lint rules inputs = .ok outcome) :
    ∃ ignored catalog views, ignorePatterns rules.ignoredKeys = .ok ignored ∧
      scan rules inputs = .ok (catalog, views) ∧
      ∀ document ∈ inputs.languages, ∀ file, LanguageFile.ofDocument document = .ok file →
        zombiesIn outcome.findings document.path =
          if rules.zombie = .disable then []
          else file.keys.filter fun key =>
            !views.any (·.refersTo key) && !isIgnored ignored key := by
  obtain ⟨ignored, catalog, views, compiled, scanned, rfl⟩ := lint_eq_ok linted
  refine ⟨ignored, catalog, views, compiled, scanned, fun document inside file read => ?_⟩
  obtain ⟨each, _⟩ := scan_eq_ok_iff.mp scanned
  have paths := paths_of_files each
  obtain ⟨other, listed, same⟩ := exists_of_forall₂ each inside
  cases read.symm.trans same
  have path : file.path = document.path := by
    obtain ⟨value, _, rfl⟩ := LanguageFile.ofDocument_eq_ok_iff.mp read
    exact (LanguageFile.ofLeaves_spec _).1
  have zombies : zombiesIn (withoutIgnored ignored (Check.runAll rules.checks catalog views))
      document.path = (((((rules.check? .zombie).toList.flatMap fun check =>
        check.run catalog views (Check.usedKeys views) []).filter fun f =>
          !isIgnored ignored f.key).filter fun f =>
            f.sourceFile = document.path).map (·.key)) := by
    rw [← RuleSettings.filter_runAll_checks rules (by decide : Rule.zombie ≠ .misprint), zombiesIn,
      withoutIgnored]
    simp only [List.filter_filter]
    congr 1
    apply List.filter_congr
    intro f _
    rw [Bool.eq_iff_iff]
    simp only [Bool.and_eq_true, decide_eq_true_eq]
    tauto
  rw [zombies]
  unfold RuleSettings.check?
  have found := fun severity => zombies_of_file severity
    (fun key => !views.any (·.refersTo key)) ignored document.path catalog.files
  rw [← path, flatMap_of_distinct (paths ▸ distinct) listed, path] at found
  cases rules.zombie with
  | disable => simp [Level.severity?]
  | warning => simpa [Level.severity?, Check.run, Check.findZombies_usedKeys] using found .warning
  | error => simpa [Level.severity?, Check.run, Check.findZombies_usedKeys] using found .error

/-- The zombies of a file are some of its keys, in order. -/
theorem zombiesIn_sublist {rules : RuleSettings} {inputs : Inputs} {outcome : Outcome}
    (distinct : (inputs.languages.map (·.path)).Nodup) (linted : lint rules inputs = .ok outcome)
    {document : Document} (inside : document ∈ inputs.languages) {file : LanguageFile}
    (read : LanguageFile.ofDocument document = .ok file) :
    (zombiesIn outcome.findings document.path).Sublist file.keys := by
  obtain ⟨ignored, _, views, _, _, zombies⟩ := exists_zombiesIn_eq distinct linted
  rw [zombies document inside file read]
  split
  · exact List.nil_sublist _
  · exact List.filter_sublist

/-- In a run some view refers to a key. -/
def Refers (rules : RuleSettings) (inputs : Inputs) (key : Text) : Prop :=
  ∃ catalog views, scan rules inputs = .ok (catalog, views) ∧
    ∃ view ∈ views, view.refersTo key = true

/-- Settings ignore a key. -/
def Ignores (rules : RuleSettings) (key : Text) : Prop :=
  ∃ ignored, ignorePatterns rules.ignoredKeys = .ok ignored ∧ isIgnored ignored key = true

theorem mem_zombies_iff {rules : RuleSettings} {inputs : Inputs} {outcome : Outcome}
    (distinct : (inputs.languages.map (·.path)).Nodup) (linted : lint rules inputs = .ok outcome)
    {document : Document} (inside : document ∈ inputs.languages) {file : LanguageFile}
    (read : LanguageFile.ofDocument document = .ok file) (key : Text) :
    key ∈ zombiesIn outcome.findings document.path ↔
      key ∈ file.keys ∧ rules.zombie ≠ .disable ∧ ¬ Refers rules inputs key ∧
        ¬ Ignores rules key := by
  obtain ⟨ignored, catalog, views, compiled, scanned, zombies⟩ :=
    exists_zombiesIn_eq distinct linted
  have refers : Refers rules inputs key ↔ ∃ view ∈ views, view.refersTo key = true := by
    simp [Refers, scanned]
  have ignores : Ignores rules key ↔ isIgnored ignored key = true := by
    simp [Ignores, compiled]
  rw [zombies document inside file read, refers, ignores]
  by_cases off : rules.zombie = .disable
  · simp [off]
  · simp [off]

/-- Unless the search is deep, what views refer to does not depend on the language files. -/
theorem Refers.of_shallow {rules : RuleSettings} (shallow : rules.deepSearch.isOn = false)
    {languages others views : List Document} {outcome : Outcome}
    (linted : lint rules ⟨others, views⟩ = .ok outcome) {key : Text}
    (refers : Refers rules ⟨languages, views⟩ key) : Refers rules ⟨others, views⟩ key := by
  obtain ⟨catalog, scannedViews, scanned, used⟩ := refers
  obtain ⟨_, pattern, compiled, rfl⟩ := scan_eq_ok_iff.mp scanned
  obtain ⟨_, other, otherViews, _, rescanned, _⟩ := lint_eq_ok linted
  obtain ⟨_, otherPattern, recompiled, rfl⟩ := scan_eq_ok_iff.mp rescanned
  have same : fragments rules catalog = fragments rules other := by
    simp [fragments, Fragment.compose, shallow]
  rw [same] at compiled
  cases compiled.symm.trans recompiled
  exact ⟨other, _, rescanned, used⟩

theorem mem_zombiesIn {findings : List Finding} {path key : Text} :
    key ∈ zombiesIn findings path ↔ ∃ finding ∈ findings, finding.rule = .zombie ∧
      finding.sourceFile = path ∧ finding.key = key := by
  simp [zombiesIn, and_assoc]

/-- A zombie is found in one of the language files. -/
theorem exists_document_of_zombie {rules : RuleSettings} {inputs : Inputs} {outcome : Outcome}
    (linted : lint rules inputs = .ok outcome) {finding : Finding}
    (inside : finding ∈ outcome.findings) (zombie : finding.rule = .zombie) :
    ∃ document ∈ inputs.languages, document.path = finding.sourceFile := by
  obtain ⟨ignored, catalog, views, _, scanned, rfl⟩ := lint_eq_ok linted
  obtain ⟨each, _⟩ := scan_eq_ok_iff.mp scanned
  have found : finding ∈ (Check.runAll rules.checks catalog views).filter (·.rule = .zombie) :=
    List.mem_filter.mpr ⟨(List.mem_filter.mp inside).1, by simpa using zombie⟩
  rw [RuleSettings.filter_runAll_checks rules (by decide : Rule.zombie ≠ .misprint)] at found
  obtain ⟨check, running, found⟩ := List.mem_flatMap.mp found
  obtain ⟨severity, _, rfl⟩ := Option.map_eq_some_iff.mp (Option.mem_toList.mp running)
  obtain ⟨file, listed, found⟩ := List.mem_flatMap.mp found
  obtain ⟨entry, _, rfl⟩ := List.mem_map.mp found
  have path : file.path ∈ inputs.languages.map (·.path) :=
    paths_of_files each ▸ List.mem_map_of_mem listed
  obtain ⟨document, given, same⟩ := List.mem_map.mp path
  exact ⟨document, given, same⟩

end Lint

end LocaleLint
