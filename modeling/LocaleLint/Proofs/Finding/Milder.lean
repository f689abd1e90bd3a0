import Mathlib
import LocaleLint.Finding.Check
import LocaleLint.Finding.Outcome
import LocaleLint.Proofs.Except

/-!
# Milder findings

Findings are milder than others if each of them stands, in order, for one of the others and is an
error only if that is one. A check that asks for less makes milder findings, also where it looks at
milder findings of earlier checks. An outcome with milder findings passes where the other one does.
-/

namespace LocaleLint

section

variable {α β α' β' : Type} {R : α → β → Prop} {S : α' → β' → Prop}

theorem sublistForall₂_of_forall₂ {left : List α} {right : List β}
    (related : List.Forall₂ R left right) : List.SublistForall₂ R left right :=
  List.sublistForall₂_iff.mpr ⟨right, related, List.Sublist.refl right⟩

theorem sublistForall₂_append {left left' : List α} {right right' : List β}
    (first : List.SublistForall₂ R left right) (second : List.SublistForall₂ R left' right') :
    List.SublistForall₂ R (left ++ left') (right ++ right') := by
  rw [List.sublistForall₂_iff] at first second ⊢
  obtain ⟨middle, related, inside⟩ := first
  obtain ⟨middle', related', inside'⟩ := second
  exact ⟨middle ++ middle', List.rel_append related related', inside.append inside'⟩

theorem sublistForall₂_append_right {left : List α} {right : List β}
    (within : List.SublistForall₂ R left right) (more : List β) :
    List.SublistForall₂ R left (right ++ more) := by
  obtain ⟨middle, related, inside⟩ := List.sublistForall₂_iff.mp within
  exact List.sublistForall₂_iff.mpr
    ⟨middle, related, inside.trans (List.sublist_append_left right more)⟩

/-- A function that keeps an item only where another function keeps its partner. -/
theorem sublistForall₂_filterMap {f : α → Option α'} {g : β → Option β'}
    (keeps : ∀ {a b a'}, R a b → f a = some a' → ∃ b', g b = some b' ∧ S a' b')
    {left : List α} {right : List β} (within : List.SublistForall₂ R left right) :
    List.SublistForall₂ S (left.filterMap f) (right.filterMap g) := by
  have skip : ∀ {list : List α'} {b : β} {right : List β},
      List.SublistForall₂ S list (right.filterMap g) →
        List.SublistForall₂ S list ((b :: right).filterMap g) := by
    intro list b right within
    cases image : g b with
    | none => rwa [List.filterMap_cons_none image]
    | some b' =>
      rw [List.filterMap_cons_some image]
      exact .cons_right within
  induction within with
  | nil => exact .nil
  | @cons a b left right related _ ih =>
    cases image : f a with
    | none =>
      rw [List.filterMap_cons_none image]
      exact skip ih
    | some a' =>
      obtain ⟨b', image', related'⟩ := keeps related image
      rw [List.filterMap_cons_some image, List.filterMap_cons_some image']
      exact .cons related' ih
  | cons_right _ ih => exact skip ih

theorem sublistForall₂_filter {p : α → Bool} {q : β → Bool}
    (keeps : ∀ {a b}, R a b → p a = true → q b = true) {left : List α} {right : List β}
    (within : List.SublistForall₂ R left right) :
    List.SublistForall₂ R (left.filter p) (right.filter q) := by
  rw [← List.filterMap_eq_filter, ← List.filterMap_eq_filter]
  refine sublistForall₂_filterMap (fun {a b a'} related kept => ?_) within
  obtain ⟨rfl, passes⟩ := Option.guard_eq_some_iff.mp kept
  exact ⟨b, Option.guard_eq_some_iff.mpr ⟨rfl, keeps related passes⟩, related⟩

theorem length_le_of_sublistForall₂ {left : List α} {right : List β}
    (within : List.SublistForall₂ R left right) : left.length ≤ right.length := by
  obtain ⟨middle, related, inside⟩ := List.sublistForall₂_iff.mp within
  exact related.length_eq ▸ inside.length_le

theorem exists_of_sublistForall₂ {left : List α} {right : List β}
    (within : List.SublistForall₂ R left right) {a : α} (inside : a ∈ left) :
    ∃ b ∈ right, R a b := by
  obtain ⟨middle, related, sub⟩ := List.sublistForall₂_iff.mp within
  obtain ⟨b, found, pair⟩ := exists_of_forall₂ related inside
  exact ⟨b, sub.mem found, pair⟩

end

/-- A finding that is about what another one is about, and that is an error only if that is one. -/
structure Finding.Milder (mild finding : Finding) : Prop where
  key : mild.key = finding.key
  rule : mild.rule = finding.rule
  sourceFile : mild.sourceFile = finding.sourceFile
  severity : mild.severity = .error → finding.severity = .error

/-- Findings that stand, in order, for some of others, and are milder. -/
abbrev Milder : List Finding → List Finding → Prop := List.SublistForall₂ Finding.Milder

namespace Outcome

theorem hasError_eq_false_iff {outcome : Outcome} :
    outcome.hasError = false ↔ ∀ finding ∈ outcome.findings, finding.severity ≠ .error := by
  rw [hasError, decide_eq_false_iff_not, Nat.pos_iff_ne_zero, not_not, errorCount,
    List.countP_eq_zero]
  simp

/-- Without errors there are as many warnings as findings. -/
theorem warningCount_eq_length {outcome : Outcome} (clean : outcome.hasError = false) :
    outcome.warningCount = outcome.findings.length := by
  rw [warningCount, List.countP_eq_length]
  intro finding inside
  have mild := hasError_eq_false_iff.mp clean finding inside
  cases severe : finding.severity with
  | error => exact absurd severe mild
  | warning => rfl

/-- Where findings are milder than those of an outcome that passes, and as many warnings are
allowed, the outcome passes. An error that has become a warning counts as a warning, but it has not
been there. -/
theorem passed_of_milder {after before : Outcome} (milder : Milder after.findings before.findings)
    (allowed : before.maxWarnings ≤ after.maxWarnings) (passed : before.passed = true) :
    after.passed = true := by
  rw [Outcome.passed, Bool.and_eq_true, Bool.not_eq_true', Bool.not_eq_true'] at passed ⊢
  obtain ⟨clean, few⟩ := passed
  have fewer := length_le_of_sublistForall₂ milder
  have counted : after.warningCount ≤ after.findings.length := List.countP_le_length
  constructor
  · rw [hasError_eq_false_iff]
    intro finding inside severe
    obtain ⟨other, found, mild⟩ := exists_of_sublistForall₂ milder inside
    exact hasError_eq_false_iff.mp clean other found (mild.severity severe)
  · rw [hasTooManyWarnings, decide_eq_false_iff_not, warningCount_eq_length clean] at few
    rw [hasTooManyWarnings, decide_eq_false_iff_not]
    omega

end Outcome

theorem Double.le_trans {a b c : Double} (first : a.le b = true) (second : b.le c = true) :
    a.le c = true := by
  unfold Double.le at *
  grind

namespace Check

/-- A check that asks for less than another one of its rule: its findings matter at most as much,
and for misprints the coefficient is at least as great and what was ignored still is. -/
inductive Loosens : Check → Check → Prop
  | zombie {mild severity : Severity} (milder : mild = .error → severity = .error) :
      Loosens (.zombie mild) (.zombie severity)
  | absent {mild severity : Severity} (milder : mild = .error → severity = .error) :
      Loosens (.absent mild) (.absent severity)
  | misprint {mild severity : Severity} {high coefficient : Double} {more ignored : List Text}
      (milder : mild = .error → severity = .error) (higher : coefficient.le high = true)
      (contained : ignored ⊆ more) :
      Loosens (.misprint mild high more) (.misprint severity coefficient ignored)
  | empty {mild severity : Severity} (milder : mild = .error → severity = .error) :
      Loosens (.empty mild) (.empty severity)

variable {catalog : Catalog} {views : List View} {mild severity : Severity}

theorem milder_entriesWith (milder : mild = .error → severity = .error) (rule : Rule)
    (test : LanguageEntry → Bool) (files : List LanguageFile) :
    Milder (entriesWith rule mild test files) (entriesWith rule severity test files) := by
  induction files with
  | nil => exact .nil
  | cons file rest ih =>
    refine sublistForall₂_append (sublistForall₂_of_forall₂ ?_) ih
    exact List.forall₂_map_left_iff.mpr (List.forall₂_map_right_iff.mpr
      (List.forall₂_same.mpr fun entry _ => ⟨rfl, rfl, rfl, milder⟩))

theorem milder_findAbsent (milder : mild = .error → severity = .error) :
    Milder (findAbsent mild catalog views) (findAbsent severity catalog views) := by
  induction views with
  | nil => exact .nil
  | cons view rest ih =>
    have same : List.SublistForall₂ Eq view.keyNames view.keyNames :=
      sublistForall₂_of_forall₂ (List.forall₂_refl _)
    refine sublistForall₂_append (sublistForall₂_filterMap ?_ same) ih
    rintro key _ finding rfl found
    unfold absentIn? at found ⊢
    dsimp only at found ⊢
    split at found
    · cases found
    · cases found
      exact ⟨_, if_neg ‹_›, rfl, rfl, rfl, milder⟩

theorem mem_similarTo {coefficient : Double} {ignored declared : List Text} {suspect key : Text} :
    key ∈ similarTo coefficient ignored declared suspect ↔
      (key ∈ declared ∧ key ≠ suspect ∧ key ∉ ignored) ∧
        coefficient.le (EditDistance.score suspect key) = true := by
  simp [similarTo]

/-- Whether a suspect becomes a finding depends on whether there is a similar key, and the finding
is about what the suspect is about. -/
theorem misprintOf?_eq_some_iff {coefficient : Double} {ignored declared : List Text}
    {suspect finding : Finding} :
    misprintOf? severity coefficient ignored declared suspect = some finding ↔
      similarTo coefficient ignored declared suspect.key ≠ [] ∧
        finding = { suspect with
          rule := .misprint, severity := severity,
          suggestions := similarTo coefficient ignored declared suspect.key } := by
  unfold misprintOf?
  cases similar : similarTo coefficient ignored declared suspect.key with
  | nil => simp
  | cons key others => simp [eq_comm]

theorem isSuspect_congr {suspect other : Finding} (same : suspect.rule = other.rule) :
    isSuspect suspect = isSuspect other := by
  rw [isSuspect, isSuspect, same]

theorem milder_findMisprints {high coefficient : Double} {more ignored : List Text}
    {earlier before : List Finding} (milder : mild = .error → severity = .error)
    (higher : coefficient.le high = true) (contained : ignored ⊆ more)
    (fewer : Milder earlier before) :
    Milder (findMisprints mild high more catalog earlier)
      (findMisprints severity coefficient ignored catalog before) := by
  have suspects : Milder (earlier.filter fun f => isSuspect f && !more.contains f.key)
      (before.filter fun f => isSuspect f && !ignored.contains f.key) := by
    refine sublistForall₂_filter (fun {suspect other} same listed => ?_) fewer
    rw [isSuspect_congr same.rule, same.key] at listed
    simp only [Bool.and_eq_true, Bool.not_eq_true', List.contains_eq_mem,
      decide_eq_false_iff_not] at listed ⊢
    exact ⟨listed.1, fun inside => listed.2 (contained inside)⟩
  refine sublistForall₂_filterMap (fun {suspect other finding} same found => ?_) suspects
  obtain ⟨similar, rfl⟩ := misprintOf?_eq_some_iff.mp found
  have remains : similarTo coefficient ignored catalog.keyNames other.key ≠ [] := by
    obtain ⟨key, close⟩ := List.exists_mem_of_ne_nil _ similar
    rw [same.key, mem_similarTo] at close
    obtain ⟨⟨declared, differs, kept⟩, close⟩ := close
    exact List.ne_nil_of_mem (mem_similarTo.mpr
      ⟨⟨declared, differs, fun inside => kept (contained inside)⟩, Double.le_trans higher close⟩)
  exact ⟨_, misprintOf?_eq_some_iff.mpr ⟨remains, rfl⟩, same.key, rfl, same.sourceFile, milder⟩

/-- A check that asks for less makes milder findings, if the earlier findings are milder. -/
theorem milder_run {used : List Text} {loose strict : Check} {earlier before : List Finding}
    (looser : loose.Loosens strict) (fewer : Milder earlier before) :
    Milder (loose.run catalog views used earlier) (strict.run catalog views used before) := by
  cases looser with
  | zombie milder => exact milder_entriesWith milder _ _ _
  | absent milder => exact milder_findAbsent milder
  | misprint milder higher contained => exact milder_findMisprints milder higher contained fewer
  | empty milder => exact milder_entriesWith milder _ _ _

/-- Checks that stand for some of others and ask for less make milder findings. The findings that
have been made so far go along, since the misprints are looked for among them. -/
theorem milder_runAll {loose strict : List Check}
    (looser : List.SublistForall₂ Loosens loose strict) :
    Milder (runAll loose catalog views) (runAll strict catalog views) := by
  let onward (earlier : List Finding) (check : Check) :=
    earlier ++ check.run catalog views (usedKeys views) earlier
  have go : ∀ {earlier before : List Finding}, Milder earlier before →
      Milder (loose.foldl onward earlier) (strict.foldl onward before) := by
    induction looser with
    | @nil strict =>
      intro earlier before fewer
      induction strict generalizing before with
      | nil => exact fewer
      | cons check rest ih => exact ih (sublistForall₂_append_right fewer _)
    | cons related _ ih =>
      intro earlier before fewer
      exact ih (sublistForall₂_append fewer (milder_run related fewer))
    | cons_right _ ih =>
      intro earlier before fewer
      exact ih (sublistForall₂_append_right fewer _)
  exact go .nil

end Check

end LocaleLint
