import Mathlib
import LocaleLint.Finding.Check
import LocaleLint.Settings.Rules

/-!
# The findings of a rule

Every finding of a check carries the rule of the check, so the findings of a rule can be told apart
in the findings of a run, which are those of one rule after another. But for misprints, which are
looked for among earlier findings, they are what the check of the rule finds alone.
-/

namespace LocaleLint.View

variable {view : View} {key : Text}

theorem refersTo_iff :
    view.refersTo key = true ↔ ∃ occurrence ∈ view.occurrences, occurrence.key = key := by
  simp [refersTo]

theorem mem_keyNames_iff :
    key ∈ view.keyNames ↔ ∃ occurrence ∈ view.occurrences, occurrence.key = key := by
  rw [keyNames, List.mem_eraseDups, List.mem_map]

end LocaleLint.View

namespace LocaleLint.Check

variable {catalog : Catalog} {views : List View} {used : List Text}

/-- A key is used if some reference in some view is to it. -/
theorem mem_usedKeys_iff {key : Text} :
    key ∈ usedKeys views ↔ ∃ view ∈ views, ∃ occurrence ∈ view.occurrences, occurrence.key = key := by
  simp only [usedKeys, List.mem_flatMap, View.mem_keyNames_iff]

theorem contains_usedKeys (key : Text) :
    (usedKeys views).contains key = views.any (·.refersTo key) := by
  rw [Bool.eq_iff_iff, List.contains_iff_mem, mem_usedKeys_iff, List.any_eq_true]
  simp only [View.refersTo_iff]

theorem findZombies_usedKeys (severity : Severity) :
    findZombies severity catalog (usedKeys views) = entriesWith .zombie severity
      (fun entry => !views.any (·.refersTo entry.key)) catalog.files := by
  simp only [findZombies, contains_usedKeys]

theorem rule_of_mem_entriesWith {rule : Rule} {severity : Severity} {test : LanguageEntry → Bool}
    {files : List LanguageFile} {finding : Finding}
    (inside : finding ∈ entriesWith rule severity test files) : finding.rule = rule := by
  obtain ⟨file, _, inside⟩ := List.mem_flatMap.mp inside
  obtain ⟨entry, _, rfl⟩ := List.mem_map.mp inside
  rfl

theorem rule_of_mem_findAbsent {severity : Severity} {finding : Finding}
    (inside : finding ∈ findAbsent severity catalog views) : finding.rule = .absent := by
  obtain ⟨view, _, inside⟩ := List.mem_flatMap.mp inside
  obtain ⟨key, _, found⟩ := List.mem_filterMap.mp inside
  unfold absentIn? at found
  dsimp only at found
  split at found
  · cases found
  · cases found
    rfl

theorem rule_of_mem_findMisprints {severity : Severity} {coefficient : Double}
    {ignored : List Text} {earlier : List Finding} {finding : Finding}
    (inside : finding ∈ findMisprints severity coefficient ignored catalog earlier) :
    finding.rule = .misprint := by
  obtain ⟨suspect, _, found⟩ := List.mem_filterMap.mp inside
  unfold misprintOf? at found
  split at found
  · cases found
  · cases found
    rfl

/-- A check finds what its rule is about. -/
theorem rule_of_mem_run {check : Check} {earlier : List Finding} {finding : Finding}
    (inside : finding ∈ check.run catalog views used earlier) : finding.rule = check.rule := by
  cases check with
  | zombie severity => exact rule_of_mem_entriesWith inside
  | absent severity => exact rule_of_mem_findAbsent inside
  | misprint severity coefficient ignored => exact rule_of_mem_findMisprints inside
  | empty severity => exact rule_of_mem_entriesWith inside

theorem runAll_append_singleton (checks : List Check) (check : Check) :
    runAll (checks ++ [check]) catalog views =
      runAll checks catalog views ++
        check.run catalog views (usedKeys views) (runAll checks catalog views) := by
  simp [runAll]

theorem run_eq_of_rule_ne {check : Check} (independent : check.rule ≠ .misprint)
    (earlier : List Finding) :
    check.run catalog views used earlier = check.run catalog views used [] := by
  cases check with
  | misprint => exact absurd rfl independent
  | _ => rfl

/-- The findings of a rule that does not look at earlier ones are those of its checks alone. -/
theorem filter_rule_runAll {rule : Rule} (independent : rule ≠ .misprint) (checks : List Check) :
    (runAll checks catalog views).filter (·.rule = rule) =
      (checks.filter (·.rule = rule)).flatMap fun check =>
        check.run catalog views (usedKeys views) [] := by
  induction checks using List.reverseRecOn with
  | nil => rfl
  | append_singleton checks check ih =>
    rw [runAll_append_singleton, List.filter_append, ih, List.filter_append, List.flatMap_append]
    congr 1
    by_cases own : check.rule = rule
    · have all : ∀ finding ∈ check.run catalog views (usedKeys views) (runAll checks catalog views),
          decide (finding.rule = rule) = true := fun finding inside =>
        decide_eq_true ((rule_of_mem_run inside).trans own)
      rw [List.filter_eq_self.mpr all, run_eq_of_rule_ne (own ▸ independent)]
      simp [own]
    · have none : ∀ finding ∈
          check.run catalog views (usedKeys views) (runAll checks catalog views),
          ¬ decide (finding.rule = rule) = true := fun finding inside => by
        simpa [rule_of_mem_run inside] using own
      rw [List.filter_eq_nil_iff.mpr none]
      simp [own]

/-- The findings of a check that may not run come behind those of the checks before it. -/
theorem runAll_append_toList (checks : List Check) (check? : Option Check) :
    runAll (checks ++ check?.toList) catalog views = runAll checks catalog views ++
      check?.toList.flatMap fun check =>
        check.run catalog views (usedKeys views) (runAll checks catalog views) := by
  cases check? with
  | none => simp
  | some check => simpa using runAll_append_singleton checks check

end LocaleLint.Check

namespace LocaleLint.RuleSettings

open Check

variable {catalog : Catalog} {views : List View}

/-- The check of a rule, if the rule runs. -/
def check? (rules : RuleSettings) : Rule → Option Check
  | .zombie => rules.zombie.severity?.map .zombie
  | .absent => rules.absent.severity?.map .absent
  | .misprint => rules.misprint.severity?.map fun severity =>
      .misprint severity rules.misprintCoefficient rules.ignoredMisprints
  | .empty => rules.empty.severity?.map .empty

/-- The findings among which misprints are looked for. -/
def suspects (rules : RuleSettings) (catalog : Catalog) (views : List View) : List Finding :=
  runAll ((rules.check? .zombie).toList ++ (rules.check? .absent).toList) catalog views

/-- What a rule finds among the suspects. -/
def findings (rules : RuleSettings) (catalog : Catalog) (views : List View) (rule : Rule) :
    List Finding :=
  (rules.check? rule).toList.flatMap fun check =>
    check.run catalog views (usedKeys views) (rules.suspects catalog views)

variable {rules : RuleSettings}

theorem rule_of_check? {rule : Rule} {check : Check} (running : rules.check? rule = some check) :
    check.rule = rule := by
  cases rule <;> obtain ⟨_, -, rfl⟩ := Option.map_eq_some_iff.mp running <;> rfl

theorem rule_of_mem_findings {rule : Rule} {finding : Finding}
    (inside : finding ∈ rules.findings catalog views rule) : finding.rule = rule := by
  obtain ⟨check, running, found⟩ := List.mem_flatMap.mp inside
  exact (rule_of_mem_run found).trans (rule_of_check? (Option.mem_toList.mp running))

/-- What a rule other than the misprint rule finds does not depend on earlier findings. -/
theorem findings_eq {rule : Rule} (independent : rule ≠ .misprint) (earlier : List Finding) :
    rules.findings catalog views rule =
      (rules.check? rule).toList.flatMap fun check =>
        check.run catalog views (usedKeys views) earlier := by
  unfold findings
  cases running : rules.check? rule with
  | none => rfl
  | some check =>
    have own : check.rule ≠ .misprint := rule_of_check? running ▸ independent
    simp [run_eq_of_rule_ne own (rules.suspects catalog views), run_eq_of_rule_ne own earlier]

/-- The checks make the findings of one rule after another. -/
theorem runAll_checks (rules : RuleSettings) :
    runAll rules.checks catalog views = Rule.all.flatMap (rules.findings catalog views) := by
  have zombies : runAll (rules.check? .zombie).toList catalog views =
      rules.findings catalog views .zombie := by
    rw [findings_eq (by decide) []]
    exact runAll_append_toList [] (rules.check? .zombie)
  -- Only the misprint rule looks at earlier findings, and what it sees are the suspects.
  have suspects : rules.suspects catalog views =
      rules.findings catalog views .zombie ++ rules.findings catalog views .absent := by
    rw [RuleSettings.suspects, runAll_append_toList, zombies, ← findings_eq (by decide)]
  calc runAll rules.checks catalog views
      = runAll (((rules.check? .zombie).toList ++ (rules.check? .absent).toList ++
          (rules.check? .misprint).toList) ++ (rules.check? .empty).toList) catalog views := rfl
    _ = runAll ((rules.check? .zombie).toList ++ (rules.check? .absent).toList ++
          (rules.check? .misprint).toList) catalog views ++
          rules.findings catalog views .empty := by
        rw [runAll_append_toList, ← findings_eq (by decide)]
    _ = (rules.suspects catalog views ++ rules.findings catalog views .misprint) ++
          rules.findings catalog views .empty := by
        rw [runAll_append_toList]
        rfl
    _ = Rule.all.flatMap (rules.findings catalog views) := by
        rw [suspects]
        simp [Rule.all]

/-- The findings of a rule in a run, also for misprints. -/
theorem filter_runAll (rules : RuleSettings) (rule : Rule) :
    (runAll rules.checks catalog views).filter (·.rule = rule) =
      rules.findings catalog views rule := by
  have part : ∀ other, (rules.findings catalog views other).filter (·.rule = rule) =
      if other = rule then rules.findings catalog views other else [] := by
    intro other
    split
    · next same =>
      exact List.filter_eq_self.mpr fun f inside => by
        simpa using (rule_of_mem_findings inside).trans same
    · next differs =>
      exact List.filter_eq_nil_iff.mpr fun f inside => by
        simpa [rule_of_mem_findings inside] using differs
  rw [runAll_checks, List.filter_flatMap]
  simp only [Rule.all, List.flatMap_cons, List.flatMap_nil, part]
  cases rule <;> simp

/-- The findings of a rule are those of its check, if the rule runs. -/
theorem filter_runAll_checks (rules : RuleSettings) {rule : Rule} (independent : rule ≠ .misprint) :
    (runAll rules.checks catalog views).filter (·.rule = rule) =
      (rules.check? rule).toList.flatMap fun check =>
        check.run catalog views (usedKeys views) [] := by
  rw [filter_runAll, findings_eq independent]

end LocaleLint.RuleSettings
