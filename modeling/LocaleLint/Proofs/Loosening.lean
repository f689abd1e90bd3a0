import Mathlib
import LocaleLint.Proofs.Finding.Milder
import LocaleLint.Proofs.Lint
import LocaleLint.Proofs.Reference.Letters

/-!
# Looser settings

Settings are looser than others if each rule matters at most as much, at least as many warnings are
allowed, misprints have to be at least as similar, and everything that was ignored still is. A run
with valid looser settings passes where a run with the stricter ones has passed.
-/

namespace LocaleLint

/-- How much a level matters. -/
def Level.rank : Level → Nat
  | disable => 0
  | warning => 1
  | error => 2

/-- Settings that look for the same references as others and are nowhere stricter. -/
structure RuleSettings.Loosens (loose strict : RuleSettings) : Prop where
  deepSearch : loose.deepSearch = strict.deepSearch
  customPatterns : loose.customPatterns = strict.customPatterns
  zombie : loose.zombie.rank ≤ strict.zombie.rank
  absent : loose.absent.rank ≤ strict.absent.rank
  misprint : loose.misprint.rank ≤ strict.misprint.rank
  empty : loose.empty.rank ≤ strict.empty.rank
  maxWarnings : strict.maxWarnings ≤ loose.maxWarnings
  misprintCoefficient : strict.misprintCoefficient.le loose.misprintCoefficient = true
  ignoredKeys : strict.ignoredKeys ⊆ loose.ignoredKeys
  ignoredMisprints : strict.ignoredMisprints ⊆ loose.ignoredMisprints

namespace RuleSettings

theorem loosens_check {low high : Level} (le : low.rank ≤ high.rank)
    {loose strict : Severity → Check}
    (looser : ∀ {mild severity : Severity}, (mild = .error → severity = .error) →
      (loose mild).Loosens (strict severity)) :
    List.SublistForall₂ Check.Loosens (low.severity?.map loose).toList
      (high.severity?.map strict).toList := by
  cases low with
  | disable => exact .nil
  | warning =>
    cases high with
    | disable => cases le
    | warning => exact .cons (looser id) .nil
    | error => exact .cons (looser fun _ => rfl) .nil
  | error =>
    cases high with
    | error => exact .cons (looser id) .nil
    | _ => simp [Level.rank] at le

theorem loosens_checks {loose strict : RuleSettings} (looser : loose.Loosens strict) :
    List.SublistForall₂ Check.Loosens loose.checks strict.checks := by
  have zombie := loosens_check looser.zombie .zombie
  have absent := loosens_check looser.absent .absent
  have misprint := loosens_check looser.misprint fun milder =>
    .misprint milder looser.misprintCoefficient looser.ignoredMisprints
  have empty := loosens_check looser.empty .empty
  exact sublistForall₂_append
    (sublistForall₂_append (sublistForall₂_append zombie absent) misprint) empty

end RuleSettings

/-- A key that some patterns ignore is ignored by more of them. -/
theorem isIgnored_mono {few more : List Text} {patterns others : List Pattern}
    (contained : few ⊆ more) (compiled : ignorePatterns few = .ok patterns)
    (recompiled : ignorePatterns more = .ok others) {key : Text}
    (ignored : isIgnored patterns key = true) : isIgnored others key = true := by
  obtain ⟨pattern, inside, occurs⟩ := List.any_eq_true.mp ignored
  obtain ⟨text, listed, made⟩ :=
    exists_of_forall₂ (mapM_eq_ok.mp compiled).flip inside
  obtain ⟨other, found, again⟩ := exists_of_forall₂ (mapM_eq_ok.mp recompiled) (contained listed)
  cases made.symm.trans again
  exact List.any_eq_true.mpr ⟨pattern, found, occurs⟩

/-- Milder findings stay milder without the ignored ones, if no key is ignored any less. -/
theorem Milder.withoutIgnored {few more : List Text} {patterns others : List Pattern}
    (contained : few ⊆ more) (compiled : ignorePatterns few = .ok patterns)
    (recompiled : ignorePatterns more = .ok others) {after before : List Finding}
    (milder : Milder after before) :
    Milder (LocaleLint.withoutIgnored others after)
      (LocaleLint.withoutIgnored patterns before) := by
  refine sublistForall₂_filter (fun {finding other} same kept => ?_) milder
  rw [same.key, Bool.not_eq_true'] at kept
  rw [Bool.not_eq_true', Bool.eq_false_iff]
  exact fun ignored =>
    Bool.eq_false_iff.mp kept (isIgnored_mono contained compiled recompiled ignored)

namespace Lint

/-- What is looked for depends on the kind of search and on the patterns of the user only. -/
theorem scan_congr {rules others : RuleSettings} (deepSearch : rules.deepSearch = others.deepSearch)
    (customPatterns : rules.customPatterns = others.customPatterns) (inputs : Inputs) :
    scan rules inputs = scan others inputs := by
  have same : fragments rules = fragments others := by
    funext catalog
    rw [fragments, fragments, deepSearch, customPatterns]
  rw [scan, scan, same]

/-- A run with valid settings that are looser succeeds where a stricter one does, with milder
findings, and it passes if the stricter one does. -/
theorem lint_loosened {loose strict : RuleSettings} {inputs : Inputs} {outcome : Outcome}
    (valid : loose.validate = .ok ()) (looser : loose.Loosens strict)
    (linted : lint strict inputs = .ok outcome) :
    ∃ after, lint loose inputs = .ok after ∧ Milder after.findings outcome.findings ∧
      (outcome.passed = true → after.passed = true) := by
  obtain ⟨ignored, catalog, views, compiled, scanned, rfl⟩ := lint_eq_ok linted
  obtain ⟨_, ⟨others, recompiled⟩, _⟩ := RuleSettings.validate_eq_ok_iff.mp valid
  have rescanned : scan loose inputs = .ok (catalog, views) :=
    (scan_congr looser.deepSearch looser.customPatterns inputs).trans scanned
  have found : Milder (Check.runAll loose.checks catalog views)
      (Check.runAll strict.checks catalog views) :=
    Check.milder_runAll (RuleSettings.loosens_checks looser)
  have milder := found.withoutIgnored looser.ignoredKeys compiled recompiled
  exact ⟨_, lint_eq_ok_iff.mpr ⟨valid, others, catalog, views, recompiled, rescanned, rfl⟩, milder,
    Outcome.passed_of_milder milder looser.maxWarnings⟩

/-- A file that declares a key without a value and a key that a view misspells. -/
def misspelled : Inputs where
  languages := [⟨"en.json".toList, "\x7b\"TITLE\": \"x\", \"NOTE\": \"\"\x7d".toList⟩]
  views := [⟨"app.html".toList, "'TITEL' | translate, 'NOTE' | translate".toList⟩]

/-- Settings under which the misspelled key is ignored, and all else is a warning. -/
def tolerant : RuleSettings :=
  { RuleSettings.default with
    misprint := .warning, maxWarnings := 2, misprintCoefficient := .nearest false 1 2,
    ignoredKeys := ["titel".toList] }

/-- Settings that do not ask for unused keys and that ignore one more key. -/
def moreTolerant : RuleSettings :=
  { tolerant with
    zombie := .disable, absent := .warning, maxWarnings := 5, misprintCoefficient := .one,
    ignoredKeys := ["^HELP".toList, "titel".toList] }

/-- What the stricter settings find: a key that is not used, and one without a value. -/
def tolerantOutcome : Outcome :=
  ⟨[⟨"TITLE".toList, .zombie, .warning, "en.json".toList, [], [], some ⟨1, 1⟩, none⟩,
    ⟨"NOTE".toList, .empty, .warning, "en.json".toList, [], [], some ⟨1, 1⟩, none⟩], 2, []⟩

set_option maxRecDepth 100000 in
theorem lint_loosened_tolerant :
    moreTolerant.validate = .ok () ∧ moreTolerant.Loosens tolerant ∧
      lint tolerant misspelled = .ok tolerantOutcome ∧ tolerantOutcome.passed = true ∧
      ∃ after, lint moreTolerant misspelled = .ok after ∧
        Milder after.findings tolerantOutcome.findings ∧ after.passed = true := by
  have looser : moreTolerant.Loosens tolerant := ⟨rfl, rfl, by decide, by decide, by decide,
    by decide, by decide, by decide +kernel, by decide, by decide⟩
  have valid : moreTolerant.validate = .ok () := by
    rw [RuleSettings.validate, KeyPattern.ofFragments_compose]
    decide +kernel
  have linted : lint tolerant misspelled = .ok tolerantOutcome := by
    rw [lint, RuleSettings.validate, scan]
    simp only [fragments, KeyPattern.ofFragments_compose]
    decide +kernel
  have passed : tolerantOutcome.passed = true := by decide
  obtain ⟨after, relinted, milder, passes⟩ := lint_loosened valid looser linted
  exact ⟨valid, looser, linted, passed, after, relinted, milder, passes passed⟩

end Lint

end LocaleLint
