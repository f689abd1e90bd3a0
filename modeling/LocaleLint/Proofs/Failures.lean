import Mathlib
import LocaleLint.Proofs.Language.Flattening
import LocaleLint.Proofs.Lint
import LocaleLint.Proofs.Reference.Validity

/-!
# Why a run fails

A run over documents fails as the validation of its settings does, or else with the first language
file that is not JSON. After that it fails only if it looks for declared keys while a pattern of the
user has a group with the name of theirs.
-/

namespace LocaleLint

/-- A document can be read if its text is JSON. -/
theorem LanguageFile.exists_ofDocument {document : Document} {value : Json}
    (read : Json.ofText document.content = .ok value) :
    ∃ file, LanguageFile.ofDocument document = .ok file :=
  ⟨_, ofDocument_eq_ok_iff.mpr ⟨value, mapError_eq_ok.mpr read, rfl⟩⟩

/-- A document whose text is not JSON fails with what is wrong with the text. -/
theorem LanguageFile.ofDocument_eq_error {document : Document} {fault : Json.Fault}
    {place : Json.Place} (broken : Json.ofText document.content = .error (fault, place)) :
    LanguageFile.ofDocument document = .error (.jsonInvalid document.path fault place) := by
  rw [ofDocument, Document.json, broken]
  rfl

namespace Lint

variable {rules : RuleSettings} {inputs : Inputs}

theorem lint_of_invalid {failure : Failure} (invalid : rules.validate = .error failure) :
    lint rules inputs = .error failure := by
  rw [lint, invalid]
  rfl

/-- With valid settings a run fails exactly as its scan does. -/
theorem lint_of_scan_error (valid : rules.validate = .ok ()) {failure : Failure}
    (fails : scan rules inputs = .error failure) : lint rules inputs = .error failure := by
  obtain ⟨-, ⟨ignored, compiled⟩, -⟩ := RuleSettings.validate_eq_ok_iff.mp valid
  rw [lint, valid, compiled, fails]
  rfl

/-- With valid settings a run succeeds if its scan does. -/
theorem exists_lint_of_scan (valid : rules.validate = .ok ()) {catalog : Catalog}
    {views : List View} (scanned : scan rules inputs = .ok (catalog, views)) :
    ∃ outcome, lint rules inputs = .ok outcome := by
  obtain ⟨-, ⟨ignored, compiled⟩, -⟩ := RuleSettings.validate_eq_ok_iff.mp valid
  exact ⟨_, lint_eq_ok_iff.mpr ⟨valid, ignored, catalog, views, compiled, scanned, rfl⟩⟩

/-- A scan fails with the first language file that is not JSON. -/
theorem scan_of_broken {before after : List Document} {document : Document} {fault : Json.Fault}
    {place : Json.Place} (split : inputs.languages = before ++ document :: after)
    (readable : ∀ earlier ∈ before, ∃ value, Json.ofText earlier.content = .ok value)
    (broken : Json.ofText document.content = .error (fault, place)) :
    scan rules inputs = .error (.jsonInvalid document.path fault place) := by
  have first : (before ++ document :: after).mapM LanguageFile.ofDocument =
      .error (.jsonInvalid document.path fault place) :=
    mapM_eq_error (fun earlier inside =>
      (readable earlier inside).elim fun _ read => LanguageFile.exists_ofDocument read)
      (LanguageFile.ofDocument_eq_error broken)
  rw [scan, Catalog.ofDocuments, split, first]
  rfl

theorem exists_catalog
    (readable : ∀ document ∈ inputs.languages, ∃ value, Json.ofText document.content = .ok value) :
    ∃ catalog, Catalog.ofDocuments inputs.languages = .ok catalog := by
  obtain ⟨files, read⟩ := exists_mapM_eq_ok fun document inside =>
    (readable document inside).elim fun _ read => LanguageFile.exists_ofDocument read
  exact ⟨⟨files⟩, map_eq_ok.mpr ⟨files, read, rfl⟩⟩

/-- There are declared keys to look for if some language file declares one. -/
theorem searchOrder_keyNames_ne_nil_iff {documents : List Document} {catalog : Catalog}
    (read : Catalog.ofDocuments documents = .ok catalog) :
    Fragment.searchOrder catalog.keyNames ≠ [] ↔ ∃ document ∈ documents,
      ∃ file, LanguageFile.ofDocument document = .ok file ∧ file.keys ≠ [] := by
  obtain ⟨files, each, rfl⟩ := map_eq_ok.mp read
  have each := mapM_eq_ok.mp each
  constructor
  · intro filled
    obtain ⟨key, searched⟩ := List.exists_mem_of_ne_nil _ filled
    have named := (Fragment.mem_searchOrder.mp searched).1
    obtain ⟨file, listed, inside⟩ := List.mem_flatMap.mp (List.mem_eraseDups.mp named)
    obtain ⟨document, given, parsed⟩ := exists_of_forall₂ each.flip listed
    exact ⟨document, given, file, parsed, List.ne_nil_of_mem inside⟩
  · rintro ⟨document, given, file, parsed, some⟩
    obtain ⟨other, listed, same⟩ := exists_of_forall₂ each given
    cases parsed.symm.trans same
    obtain ⟨key, inside⟩ := List.exists_mem_of_ne_nil _ some
    have filled : key ≠ [] := fun empty => LanguageFile.nil_notMem_keys parsed (empty ▸ inside)
    have named : key ∈ Catalog.keyNames ⟨files⟩ :=
      List.mem_eraseDups.mpr (List.mem_flatMap.mpr ⟨file, listed, inside⟩)
    exact List.ne_nil_of_mem (Fragment.mem_searchOrder.mpr ⟨named, filled⟩)

/-- A search looks for declared keys, and a pattern of the user has a group with the name of the
group that is put around them. -/
structure Clashes (rules : RuleSettings) (inputs : Inputs) : Prop where
  deep : rules.deepSearch = .enable
  declared : ∃ document ∈ inputs.languages,
    ∃ file, LanguageFile.ofDocument document = .ok file ∧ file.keys ≠ []
  taken : KeyPattern.TakesDeclaredGroup rules.customPatterns

section
variable {catalog : Catalog} (read : Catalog.ofDocuments inputs.languages = .ok catalog)
include read

theorem scan_eq_map : scan rules inputs =
    (KeyPattern.ofFragments (fragments rules catalog)).map fun pattern =>
      (catalog, inputs.views.map (View.ofDocument pattern)) := by
  rw [scan, read]
  change (KeyPattern.ofFragments (fragments rules catalog)).bind _ = _
  cases KeyPattern.ofFragments (fragments rules catalog) <;> rfl

variable (valid : rules.validate = .ok ())
include valid

/-- With valid settings the forms of references compile unless there is a clash. -/
theorem exists_pattern_of_not_clashes (free : ¬ Clashes rules inputs) :
    ∃ pattern, KeyPattern.ofFragments (fragments rules catalog) = .ok pattern := by
  obtain ⟨-, -, shallow, compiled⟩ := RuleSettings.validate_eq_ok_iff.mp valid
  rw [fragments]
  cases deep : rules.deepSearch with
  | disable => exact ⟨shallow, compiled⟩
  | enable =>
    by_cases none : Fragment.searchOrder catalog.keyNames = []
    · refine ⟨shallow, ?_⟩
      rw [Toggle.isOn, KeyPattern.compose_deep, if_pos none, List.nil_append]
      exact compiled
    · have declared := (searchOrder_keyNames_ne_nil_iff read).mp none
      exact KeyPattern.exists_ofFragments_deep none compiled fun taken =>
        free ⟨deep, declared, taken⟩

/-- In a clash the forms of references do not compile together, although settings are valid. -/
theorem ofFragments_of_clashes (clash : Clashes rules inputs) :
    KeyPattern.ofFragments (fragments rules catalog) = .error (.patternInvalid
      ⟨KeyPattern.combine ((fragments rules catalog).map Fragment.source),
        .groupNameDuplicate⟩) := by
  obtain ⟨-, -, shallow, compiled⟩ := RuleSettings.validate_eq_ok_iff.mp valid
  have filled := (searchOrder_keyNames_ne_nil_iff read).mpr clash.declared
  rw [fragments, clash.deep]
  exact KeyPattern.ofFragments_deep_of_takes filled compiled clash.taken

end

/-- A run fails as validation does. With valid settings it fails with the first language file that
is not JSON. If there is none it succeeds, unless a group of the user has the name of the group of
declared keys: then the pattern for all forms of references together does not compile. -/
theorem lint_failures (rules : RuleSettings) (inputs : Inputs) :
    (∀ failure, rules.validate = .error failure → lint rules inputs = .error failure) ∧
    (rules.validate = .ok () →
      (∀ before document after fault place,
        inputs.languages = before ++ document :: after →
        (∀ earlier ∈ before, ∃ value, Json.ofText earlier.content = .ok value) →
        Json.ofText document.content = .error (fault, place) →
        lint rules inputs = .error (.jsonInvalid document.path fault place)) ∧
      ((∀ document ∈ inputs.languages, ∃ value, Json.ofText document.content = .ok value) →
        (¬ Clashes rules inputs → ∃ outcome, lint rules inputs = .ok outcome) ∧
        (Clashes rules inputs → ∃ catalog, Catalog.ofDocuments inputs.languages = .ok catalog ∧
          lint rules inputs = .error (.patternInvalid
            ⟨KeyPattern.combine ((fragments rules catalog).map Fragment.source),
              .groupNameDuplicate⟩)))) := by
  refine ⟨fun failure => lint_of_invalid, fun valid => ⟨?_, fun readable => ?_⟩⟩
  · intro before document after fault place split earlier broken
    exact lint_of_scan_error valid (scan_of_broken split earlier broken)
  · obtain ⟨catalog, read⟩ := exists_catalog readable
    constructor
    · intro free
      obtain ⟨pattern, compiled⟩ := exists_pattern_of_not_clashes read valid free
      refine exists_lint_of_scan valid (?_ : scan rules inputs =
        .ok (catalog, inputs.views.map (View.ofDocument pattern)))
      rw [scan_eq_map read, compiled]
      rfl
    · intro clash
      refine ⟨catalog, read, lint_of_scan_error valid ?_⟩
      rw [scan_eq_map read, ofFragments_of_clashes read valid clash]
      rfl

/-- Two language files, of which the second one is cut off. -/
def cutOff : Inputs where
  languages := [⟨"en.json".toList, "\x7b\"A\": \"x\"\x7d".toList⟩,
    ⟨"de.json".toList, "\x7b\"A\"".toList⟩, ⟨"fr.json".toList, "]".toList⟩]
  views := []

/-- A language file and a view that refers to its key. -/
def greeting : Inputs where
  languages := [⟨"en.json".toList, "\x7b\"A\": \"x\"\x7d".toList⟩]
  views := [⟨"app.html".toList, "A".toList⟩]

theorem greeting_readable :
    ∀ document ∈ greeting.languages, ∃ value, Json.ofText document.content = .ok value :=
  List.forall_mem_singleton.mpr ⟨.object [("A".toList, .string "x".toList)], rfl⟩

/-- Settings of a deep search in which the user gives a group a name. -/
def naming (pattern : String) : RuleSettings :=
  { RuleSettings.default with deepSearch := .enable, customPatterns := [pattern.toList] }

/-- Settings with a pattern of a key to ignore that is not closed. -/
def unclosed : RuleSettings := { naming "(?P<own>x)" with ignoredKeys := ["(".toList] }

set_option maxRecDepth 100000 in
/-- A name of the user's own does no harm, but the name of the group of declared keys does, although
both settings are valid. -/
theorem naming_spec :
    ((naming "(?P<own>x)").validate = .ok () ∧ ¬ Clashes (naming "(?P<own>x)") greeting) ∧
      (naming "(?P<declared>x)").validate = .ok () ∧ Clashes (naming "(?P<declared>x)") greeting ∧
      unclosed.validate = .error (.patternInvalid ⟨"(".toList, .groupUnclosed⟩) := by
  have computed : KeyPattern.TakesDeclaredGroup (naming "(?P<declared>x)").customPatterns ∧
      ¬ KeyPattern.TakesDeclaredGroup (naming "(?P<own>x)").customPatterns ∧
      unclosed.validate = .error (.patternInvalid ⟨"(".toList, .groupUnclosed⟩) := by
    decide +kernel
  have valid : ∀ pattern ∈ ["(?P<own>x)", "(?P<declared>x)"],
      (naming pattern).validate = .ok () := by
    simp only [RuleSettings.validate, KeyPattern.ofFragments_compose]
    decide +kernel
  obtain ⟨taken, free, fails⟩ := computed
  refine ⟨⟨valid _ List.mem_cons_self, fun clash => free clash.taken⟩,
    valid _ (List.mem_cons_of_mem _ List.mem_cons_self), ⟨rfl, ?_, taken⟩, fails⟩
  exact ⟨_, List.mem_singleton_self _, _, rfl, by decide +kernel⟩

theorem lint_failures_naming :
    unclosed.validate = .error (.patternInvalid ⟨"(".toList, .groupUnclosed⟩) ∧
      lint unclosed greeting = .error (.patternInvalid ⟨"(".toList, .groupUnclosed⟩) ∧
    (naming "(?P<own>x)").validate = .ok () ∧
      lint (naming "(?P<own>x)") cutOff =
        .error (.jsonInvalid "de.json".toList .endInObject ⟨1, 4⟩) ∧
      (∃ outcome, lint (naming "(?P<own>x)") greeting = .ok outcome) ∧
    (naming "(?P<declared>x)").validate = .ok () ∧
      ∃ text, lint (naming "(?P<declared>x)") greeting =
        .error (.patternInvalid ⟨text, .groupNameDuplicate⟩) := by
  obtain ⟨⟨valid, free⟩, valid', clash, fails⟩ := naming_spec
  obtain ⟨catalog, -, failed⟩ := (((lint_failures _ _).2 valid').2 greeting_readable).2 clash
  refine ⟨fails, (lint_failures _ _).1 _ fails, valid, ?_,
    (((lint_failures _ _).2 valid).2 greeting_readable).1 free, valid', _, failed⟩
  exact ((lint_failures _ cutOff).2 valid).1 greeting.languages _ _ _ _ rfl greeting_readable rfl

/-- A run with valid settings and language files that can be read may fail. -/
theorem lint_fails_late :
    ¬ ∀ (rules : RuleSettings) (inputs : Inputs), rules.validate = .ok () →
      (∀ document ∈ inputs.languages, ∃ value, Json.ofText document.content = .ok value) →
      ∃ outcome, lint rules inputs = .ok outcome := by
  intro claim
  obtain ⟨-, valid, clash, -⟩ := naming_spec
  obtain ⟨outcome, linted⟩ := claim (naming "(?P<declared>x)") greeting valid greeting_readable
  obtain ⟨catalog, read⟩ := exists_catalog greeting_readable
  have fails := lint_of_scan_error valid
    ((scan_eq_map read).trans (congrArg _ (ofFragments_of_clashes read valid clash)))
  cases fails.symm.trans linted

end Lint

end LocaleLint
