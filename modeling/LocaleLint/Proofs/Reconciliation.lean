import Mathlib
import LocaleLint.Proofs.Lint

/-!
# Declared and used keys

With no ignored keys the zombie rule and the absent rule together compare what the language files
declare with what the views refer to. They find nothing exactly if each file declares the keys that
are referred to, and no others.
-/

namespace LocaleLint

namespace View

/-- The references of which none to the same key comes earlier, in order. -/
def firstOccurrences : List Occurrence → List Occurrence
  | [] => []
  | occurrence :: rest =>
    occurrence :: (firstOccurrences rest).filter (·.key ≠ occurrence.key)

theorem firstOccurrences_filter (key : Text) (occurrences : List Occurrence) :
    firstOccurrences (occurrences.filter (·.key ≠ key)) =
      (firstOccurrences occurrences).filter (·.key ≠ key) := by
  induction occurrences with
  | nil => rfl
  | cons first rest ih =>
    by_cases same : first.key = key
    · have dropped : (first :: rest).filter (·.key ≠ key) = rest.filter (·.key ≠ key) := by
        simp [same]
      rw [dropped, ih, firstOccurrences, same]
      simp [same]
    · have kept : (first :: rest).filter (·.key ≠ key) = first :: rest.filter (·.key ≠ key) := by
        simp [same]
      have first' : ∀ list : List Occurrence, (first :: list).filter (·.key ≠ key) =
          first :: list.filter (·.key ≠ key) := by
        intro list
        simp [same]
      rw [kept, firstOccurrences, firstOccurrences, ih, first', List.filter_filter,
        List.filter_filter]
      simp [Bool.and_comm]

/-- The keys of a view, each once, are those of the first references. -/
theorem keyNames_eq (view : View) :
    view.keyNames = (firstOccurrences view.occurrences).map (·.key) := by
  unfold keyNames
  generalize view.occurrences = occurrences
  induction length : occurrences.length using Nat.strong_induction_on generalizing occurrences with
  | _ n ih =>
    cases occurrences with
    | nil => rfl
    | cons first rest =>
      have later : (rest.map (·.key)).filter (fun k => !k == first.key) =
          (rest.filter (·.key ≠ first.key)).map (·.key) := by
        rw [List.filter_map]
        congr 1
        apply List.filter_congr
        intro occurrence _
        by_cases same : occurrence.key = first.key <;> simp [same]
      have shorter : (rest.filter (·.key ≠ first.key)).length < n := by
        have := List.length_filter_le (fun o : Occurrence => o.key ≠ first.key) rest
        rw [List.length_cons] at length
        omega
      rw [List.map_cons, List.eraseDups_cons, later, ih _ shorter _ rfl, firstOccurrences,
        List.map_cons, firstOccurrences_filter]

theorem find?_of_mem_firstOccurrences {occurrences : List Occurrence} {occurrence : Occurrence}
    (first : occurrence ∈ firstOccurrences occurrences) :
    occurrences.find? (·.key = occurrence.key) = some occurrence := by
  induction occurrences with
  | nil => cases first
  | cons o rest ih =>
    rcases List.mem_cons.mp first with rfl | later
    · simp
    · obtain ⟨inside, other⟩ := List.mem_filter.mp later
      have differs : o.key ≠ occurrence.key := fun same => by simp [same] at other
      rw [List.find?_cons_of_neg (by simpa using differs)]
      exact ih inside

end View

/-- What the zombie rule is to find: one finding for each entry of a file that no view refers to. -/
def zombieFindings (severity : Severity) (files : List LanguageFile) (views : List View) :
    List Finding :=
  files.flatMap fun file =>
    (file.entries.filter fun entry => views.all fun view => !view.refersTo entry.key).map
      fun entry => ⟨entry.key, .zombie, severity, file.path, [], [], some ⟨entry.line, 1⟩, none⟩

/-- What the absent rule is to find: one finding for each key of a view that a file lacks or for
which there are no files, at the first reference to the key, with the files that lack it. -/
def absentFindings (severity : Severity) (files : List LanguageFile) (views : List View) :
    List Finding :=
  views.flatMap fun view =>
    ((View.firstOccurrences view.occurrences).filter fun occurrence =>
      files.isEmpty || files.any fun file => !file.declares occurrence.key).map fun occurrence =>
        ⟨occurrence.key, .absent, severity, view.path,
          (files.filter fun file => !file.declares occurrence.key).map (·.path), [],
          some ⟨occurrence.line, occurrence.column⟩, some occurrence.sourceLine⟩

theorem Check.findZombies_eq (severity : Severity) (catalog : Catalog) (views : List View) :
    findZombies severity catalog (usedKeys views) = zombieFindings severity catalog.files views := by
  simp only [findZombies_usedKeys, entriesWith, zombieFindings, List.not_any_eq_all_not]
  rfl

private theorem absentIn?_of_first {severity : Severity} {catalog : Catalog} {view : View}
    {occurrence : Occurrence} (first : occurrence ∈ View.firstOccurrences view.occurrences) :
    Check.absentIn? severity catalog view occurrence.key =
      if catalog.files.isEmpty || catalog.files.any fun file => !file.declares occurrence.key then
        some ⟨occurrence.key, .absent, severity, view.path,
          (catalog.files.filter fun file => !file.declares occurrence.key).map (·.path), [],
          some ⟨occurrence.line, occurrence.column⟩, some occurrence.sourceLine⟩
      else none := by
  have found : view.first? occurrence.key = some occurrence :=
    View.find?_of_mem_firstOccurrences first
  have lacking : (catalog.filesWithout occurrence.key).isEmpty =
      !(catalog.files.any fun file => !file.declares occurrence.key) := by
    rw [Catalog.filesWithout, Bool.eq_iff_iff]
    simp
  unfold Check.absentIn?
  dsimp only
  rw [lacking, found, Catalog.filesWithout]
  by_cases some : catalog.files.any fun file => !file.declares occurrence.key
  · simp [some]
  · have all : ∀ file ∈ catalog.files, file.declares occurrence.key = true := by
      simpa using some
    cases files : catalog.files with
    | nil => simp [Catalog.declares, files]
    | cons file rest =>
      have declared : catalog.declares occurrence.key = true := by
        rw [Catalog.declares, files, List.any_cons, all file (by simp [files])]
        rfl
      rw [files] at some
      simp [some, declared]

theorem Check.findAbsent_eq (severity : Severity) (catalog : Catalog) (views : List View) :
    findAbsent severity catalog views = absentFindings severity catalog.files views := by
  unfold findAbsent absentFindings
  congr 1
  funext view
  rw [View.keyNames_eq, List.filterMap_map, ← List.filterMap_eq_map, List.filterMap_filter]
  apply List.filterMap_congr
  intro occurrence first
  rw [Function.comp_apply, absentIn?_of_first first]
  rfl

theorem zombieFindings_eq_nil_iff {severity : Severity} {files : List LanguageFile}
    {views : List View} :
    zombieFindings severity files views = [] ↔
      ∀ file ∈ files, ∀ key ∈ file.keys, ∃ view ∈ views, view.refersTo key = true := by
  simp [zombieFindings, LanguageFile.keys]

theorem absentFindings_eq_nil_iff {severity : Severity} {files : List LanguageFile}
    {views : List View} (some : files ≠ []) :
    absentFindings severity files views = [] ↔
      ∀ view ∈ views, ∀ key, view.refersTo key = true → ∀ file ∈ files, key ∈ file.keys := by
  have keys : ∀ view : View, ∀ key, view.refersTo key = true ↔
      ∃ occurrence ∈ View.firstOccurrences view.occurrences, occurrence.key = key := by
    intro view key
    rw [View.refersTo_iff, ← View.mem_keyNames_iff, View.keyNames_eq, List.mem_map]
  simp only [keys]
  simp [absentFindings, some, LanguageFile.declares_iff_mem]

namespace Lint

/-- A run in which both rules are enabled and no keys are ignored finds exactly the unused entries
and the lacking keys. If there is a language file, there are none of either kind exactly if each
file declares the keys that views refer to and no others. -/
theorem lint_reconciles {rules : RuleSettings} {inputs : Inputs} {outcome : Outcome}
    (linted : lint rules inputs = .ok outcome) (zombie : rules.zombie ≠ .disable)
    (absent : rules.absent ≠ .disable) (ignored : rules.ignoredKeys = []) :
    ∃ catalog views, scan rules inputs = .ok (catalog, views) ∧
      (∃ severity, rules.zombie.severity? = some severity ∧
        outcome.ofRule .zombie = zombieFindings severity catalog.files views) ∧
      (∃ severity, rules.absent.severity? = some severity ∧
        outcome.ofRule .absent = absentFindings severity catalog.files views) ∧
      (catalog.files ≠ [] →
        ((outcome.ofRule .zombie = [] ∧ outcome.ofRule .absent = []) ↔
          ∀ file ∈ catalog.files, ∀ key,
            key ∈ file.keys ↔ ∃ view ∈ views, view.refersTo key = true)) := by
  obtain ⟨patterns, catalog, views, compiled, scanned, rfl⟩ := lint_eq_ok linted
  have none : patterns = [] := by
    rw [ignored] at compiled
    exact (Except.ok.inj compiled).symm
  subst none
  have findings : ∀ rule, rule ≠ .misprint → Outcome.ofRule ⟨withoutIgnored []
      (Check.runAll rules.checks catalog views), rules.maxWarnings, []⟩ rule =
        (rules.check? rule).toList.flatMap fun check =>
          check.run catalog views (Check.usedKeys views) [] := by
    intro rule independent
    rw [← RuleSettings.filter_runAll_checks rules independent]
    simp [Outcome.ofRule, withoutIgnored, isIgnored]
  have enabled : ∀ level : Level, level ≠ .disable →
      ∃ severity, level.severity? = some severity := by
    intro level on
    cases level with
    | disable => exact absurd rfl on
    | warning => exact ⟨_, rfl⟩
    | error => exact ⟨_, rfl⟩
  obtain ⟨z, zombieSeverity⟩ := enabled _ zombie
  obtain ⟨a, absentSeverity⟩ := enabled _ absent
  have zombies := findings .zombie (by decide)
  have absents := findings .absent (by decide)
  simp only [RuleSettings.check?, zombieSeverity, absentSeverity, Option.map_some,
    Option.toList_some, List.flatMap_singleton, Check.run, Check.findZombies_eq,
    Check.findAbsent_eq] at zombies absents
  refine ⟨catalog, views, scanned, ⟨z, zombieSeverity, zombies⟩, ⟨a, absentSeverity, absents⟩,
    fun some => ?_⟩
  rw [zombies, absents, zombieFindings_eq_nil_iff, absentFindings_eq_nil_iff some]
  constructor
  · rintro ⟨used, declared⟩ file inside key
    refine ⟨used file inside key, ?_⟩
    rintro ⟨view, listed, refers⟩
    exact declared view listed key refers file inside
  · intro agree
    exact ⟨fun file inside key listed => (agree file inside key).mp listed,
      fun view listed key refers file inside => (agree file inside key).mpr ⟨view, listed, refers⟩⟩

/-- A file that declares one key, and a view that uses another one. -/
def strangers : Inputs where
  languages := [⟨"en.json".toList, "\x7b\"A\": \"x\"\x7d".toList⟩]
  views := [⟨"app.html".toList, "\x7b\x7b 'B' | translate \x7d\x7d".toList⟩]

/-- What a run over strangers finds: that the one key is unused and that the other one is absent. -/
def strangersOutcome : Outcome :=
  ⟨[⟨"A".toList, .zombie, .warning, "en.json".toList, [], [], some ⟨1, 1⟩, none⟩,
    ⟨"B".toList, .absent, .error, "app.html".toList, ["en.json".toList], [], some ⟨1, 5⟩,
      some "\x7b\x7b 'B' | translate \x7d\x7d".toList⟩], 0, []⟩

set_option maxRecDepth 100000 in
theorem lint_reconciles_strangers :
    lint .default strangers = .ok strangersOutcome ∧ RuleSettings.default.zombie ≠ .disable ∧
      RuleSettings.default.absent ≠ .disable ∧ RuleSettings.default.ignoredKeys = [] ∧
      ∃ catalog views, scan .default strangers = .ok (catalog, views) ∧
        strangersOutcome.ofRule .zombie = zombieFindings .warning catalog.files views ∧
        strangersOutcome.ofRule .absent = absentFindings .error catalog.files views := by
  have linted : lint .default strangers = .ok strangersOutcome := by decide +kernel
  obtain ⟨catalog, views, scanned, ⟨z, zombieSeverity, zombies⟩, ⟨a, absentSeverity, absents⟩, _⟩ :=
    lint_reconciles linted (by decide) (by decide) rfl
  cases zombieSeverity
  cases absentSeverity
  exact ⟨linted, by decide, by decide, rfl, catalog, views, scanned, zombies, absents⟩

end Lint

end LocaleLint
