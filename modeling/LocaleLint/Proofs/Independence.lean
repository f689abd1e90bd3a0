import Mathlib
import LocaleLint.Proofs.Failures
import LocaleLint.Proofs.Fix.Entries
import LocaleLint.Proofs.Loosening

/-!
# Rules do not disturb one another

The findings of a run are those of each rule, one rule after another. What the zombie, the absent
and the empty rule find depends on their own levels only. The misprints depend on which of the first
two rules run as well, since their findings are the suspects, but not on how much those matter.
-/

namespace LocaleLint

/-- The same finding, mattering as much as is said. -/
def Finding.graded (severity : Severity) (finding : Finding) : Finding :=
  { finding with severity := severity }

namespace Check

variable {catalog : Catalog} {views : List View}

theorem entriesWith_graded (rule : Rule) (severity other : Severity) (test : LanguageEntry → Bool)
    (files : List LanguageFile) :
    (entriesWith rule severity test files).map (·.graded other) =
      entriesWith rule other test files := by
  simp only [entriesWith, List.map_flatMap, List.map_map]
  rfl

theorem absentIn?_graded (severity other : Severity) (view : View) (key : Text) :
    (absentIn? severity catalog view key).map (·.graded other) =
      absentIn? other catalog view key := by
  unfold absentIn?
  dsimp only
  split
  · rfl
  · rfl

theorem findAbsent_graded (severity other : Severity) :
    (findAbsent severity catalog views).map (·.graded other) =
      findAbsent other catalog views := by
  simp only [findAbsent, List.map_flatMap, List.map_filterMap, absentIn?_graded]

/-- A misprint is found whatever the severity of its suspect. -/
theorem findMisprints_graded (severity other : Severity) (coefficient : Double)
    (ignored : List Text) (earlier : List Finding) :
    findMisprints severity coefficient ignored catalog (earlier.map (·.graded other)) =
      findMisprints severity coefficient ignored catalog earlier := by
  unfold findMisprints
  dsimp only
  rw [List.filter_map, List.filterMap_map]
  rfl

end Check

namespace RuleSettings

open Check

def level (rules : RuleSettings) : Rule → Level
  | .zombie => rules.zombie
  | .absent => rules.absent
  | .misprint => rules.misprint
  | .empty => rules.empty

variable {rules others : RuleSettings} {catalog : Catalog} {views : List View}

/-- The suspects, all mattering as much as is said. -/
theorem suspects_graded (severity : Severity) :
    (rules.suspects catalog views).map (·.graded severity) =
      (if rules.zombie = .disable then [] else findZombies severity catalog (usedKeys views)) ++
        (if rules.absent = .disable then [] else findAbsent severity catalog views) := by
  have zombies : ∀ own, (findZombies own catalog (usedKeys views)).map (·.graded severity) =
      findZombies severity catalog (usedKeys views) := fun own => entriesWith_graded _ _ _ _ _
  have absent : ∀ own, (findAbsent own catalog views).map (·.graded severity) =
      findAbsent severity catalog views := fun own => findAbsent_graded _ _
  unfold suspects check?
  cases rules.zombie <;> cases rules.absent <;>
    simp [Level.severity?, runAll, run, zombies, absent]

/-- Settings that look for the same references and ignore the same keys. -/
structure SharesScope (rules others : RuleSettings) : Prop where
  deepSearch : rules.deepSearch = others.deepSearch
  customPatterns : rules.customPatterns = others.customPatterns
  ignoredKeys : rules.ignoredKeys = others.ignoredKeys

/-- Settings that look for misprints alike, and among the findings of the same rules. -/
structure SharesMisprints (rules others : RuleSettings) : Prop where
  misprint : rules.misprint = others.misprint
  misprintCoefficient : rules.misprintCoefficient = others.misprintCoefficient
  ignoredMisprints : rules.ignoredMisprints = others.ignoredMisprints
  zombie : rules.zombie = .disable ↔ others.zombie = .disable
  absent : rules.absent = .disable ↔ others.absent = .disable

theorem findings_congr {rule : Rule} (independent : rule ≠ .misprint)
    (same : rules.level rule = others.level rule) :
    rules.findings catalog views rule = others.findings catalog views rule := by
  have check : rules.check? rule = others.check? rule := by
    cases rule with
    | misprint => exact absurd rfl independent
    | _ => exact congrArg (fun level : Level => level.severity?.map _) same
  rw [findings_eq independent [], findings_eq independent [], check]

theorem findings_misprint_congr (same : rules.SharesMisprints others) :
    rules.findings catalog views .misprint = others.findings catalog views .misprint := by
  have check : rules.check? .misprint = others.check? .misprint := by
    rw [check?, check?, same.misprint, same.misprintCoefficient, same.ignoredMisprints]
  have suspects : (rules.suspects catalog views).map (·.graded .error) =
      (others.suspects catalog views).map (·.graded .error) := by
    rw [suspects_graded, suspects_graded]
    simp only [same.zombie, same.absent]
  unfold findings
  rw [check]
  cases running : others.check? .misprint with
  | none => rfl
  | some looked =>
    obtain ⟨severity, -, rfl⟩ := Option.map_eq_some_iff.mp running
    simp only [Option.toList_some, List.flatMap_singleton, run]
    -- The suspects are the same up to severity, and no misprint depends on that of its suspect.
    rw [← findMisprints_graded _ .error, suspects, findMisprints_graded]

/-- Whether settings are valid depends on what they share and on the coefficient. -/
theorem SharesScope.validate (same : rules.SharesScope others) (valid : rules.validate = .ok ())
    (between : (Double.zero.le others.misprintCoefficient &&
      others.misprintCoefficient.le .one) = true) : others.validate = .ok () := by
  obtain ⟨-, ignored, pattern⟩ := validate_eq_ok_iff.mp valid
  rw [same.ignoredKeys] at ignored
  rw [same.customPatterns] at pattern
  exact validate_eq_ok_iff.mpr ⟨between, ignored, pattern⟩

end RuleSettings

namespace Lint

/-- The findings of a rule in the outcome of a run. -/
theorem exists_ofRule_eq {rules : RuleSettings} {inputs : Inputs} {outcome : Outcome}
    (linted : lint rules inputs = .ok outcome) :
    ∃ ignored catalog views, ignorePatterns rules.ignoredKeys = .ok ignored ∧
      scan rules inputs = .ok (catalog, views) ∧
      outcome.findings =
        withoutIgnored ignored (Rule.all.flatMap (rules.findings catalog views)) ∧
      ∀ rule, outcome.ofRule rule =
        withoutIgnored ignored (rules.findings catalog views rule) := by
  obtain ⟨ignored, catalog, views, compiled, scanned, rfl⟩ := lint_eq_ok linted
  refine ⟨ignored, catalog, views, compiled, scanned, ?_, fun rule => ?_⟩
  · rw [RuleSettings.runAll_checks]
  · rw [← RuleSettings.filter_runAll, Outcome.ofRule, withoutIgnored, withoutIgnored,
      List.filter_filter, List.filter_filter]
    simp only [Bool.and_comm]

/-- Settings that share their scope with those of a run that succeeds do not fail either. -/
theorem exists_lint_of_sharesScope {rules others : RuleSettings} {inputs : Inputs}
    {outcome : Outcome} (linted : lint rules inputs = .ok outcome)
    (same : rules.SharesScope others)
    (between : (Double.zero.le others.misprintCoefficient &&
      others.misprintCoefficient.le .one) = true) :
    ∃ after, lint others inputs = .ok after := by
  obtain ⟨valid, _, catalog, views, _, scanned, _⟩ := lint_eq_ok_iff.mp linted
  rw [scan_congr same.deepSearch same.customPatterns] at scanned
  exact exists_lint_of_scan (same.validate valid between) scanned

/-- The findings of a run are those of each rule in turn. Two runs with the same scope give the same
findings of a rule that looks at the documents only, if it has the same level. They give the same
misprints if these are looked for alike and among the findings of the same rules, however much those
matter. -/
theorem lint_independent {rules : RuleSettings} {inputs : Inputs} {outcome : Outcome}
    (linted : lint rules inputs = .ok outcome) :
    outcome.findings = Rule.all.flatMap outcome.ofRule ∧
      ∀ (others : RuleSettings) (after : Outcome), lint others inputs = .ok after →
        rules.SharesScope others →
        (∀ rule ≠ .misprint, rules.level rule = others.level rule →
          outcome.ofRule rule = after.ofRule rule) ∧
        (rules.SharesMisprints others → outcome.ofRule .misprint = after.ofRule .misprint) := by
  obtain ⟨ignored, catalog, views, compiled, scanned, found, ofRule⟩ := exists_ofRule_eq linted
  constructor
  · rw [found, withoutIgnored, List.filter_flatMap]
    exact congrArg Rule.all.flatMap (funext fun rule => (ofRule rule).symm)
  · intro others after relinted same
    obtain ⟨ignored', catalog', views', recompiled, rescanned, -, ofRule'⟩ :=
      exists_ofRule_eq relinted
    cases (same.ignoredKeys ▸ compiled).symm.trans recompiled
    cases ((scan_congr same.deepSearch same.customPatterns inputs).symm.trans scanned).symm.trans
      rescanned
    constructor
    · intro rule independent level
      rw [ofRule, ofRule', RuleSettings.findings_congr independent level]
    · intro misprints
      rw [ofRule, ofRule', RuleSettings.findings_misprint_congr misprints]

/-- The default settings, but misprints of any likeness are looked for. -/
def anyLikeness : RuleSettings :=
  { RuleSettings.default with misprint := .warning, misprintCoefficient := .zero }

/-- The same, but keys that are not used matter more, and keys that are missing matter less. -/
def regraded : RuleSettings :=
  { anyLikeness with zombie := .error, absent := .warning, maxWarnings := 3 }

theorem lint_independent_twoKeys :
    ∃ outcome after, lint anyLikeness twoKeys = .ok outcome ∧
      lint regraded twoKeys = .ok after ∧ anyLikeness.SharesScope regraded ∧
      anyLikeness.SharesMisprints regraded ∧
      outcome.findings = Rule.all.flatMap outcome.ofRule ∧
      outcome.ofRule .empty = after.ofRule .empty ∧
      outcome.ofRule .misprint = after.ofRule .misprint := by
  have scope : RuleSettings.default.SharesScope anyLikeness := ⟨rfl, rfl, rfl⟩
  have same : anyLikeness.SharesScope regraded := ⟨rfl, rfl, rfl⟩
  have misprints : anyLikeness.SharesMisprints regraded :=
    ⟨rfl, rfl, rfl, by decide, by decide⟩
  obtain ⟨outcome, linted⟩ := exists_lint_of_sharesScope twoKeys_linted scope (by decide +kernel)
  obtain ⟨after, relinted⟩ := exists_lint_of_sharesScope linted same (by decide +kernel)
  obtain ⟨grouped, agree⟩ := lint_independent linted
  obtain ⟨levels, likeness⟩ := agree regraded after relinted same
  exact ⟨outcome, after, linted, relinted, same, misprints, grouped,
    levels .empty (by decide) rfl, likeness misprints⟩

end Lint

end LocaleLint
