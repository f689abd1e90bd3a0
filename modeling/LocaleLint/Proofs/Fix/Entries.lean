import Mathlib
import LocaleLint.Proofs.Fix.Plan
import LocaleLint.Proofs.Language.Plain
import LocaleLint.Proofs.Reference.Letters

/-!
# What a fix does to the entries of a file

A fix is meant to take the zombies out of a file and nothing else. Whether it does is a matter of
the values of the files alone: keys that are removed have to leave a value that can still be read,
with the other keys and none of the removed ones. All plain documents that nest less deep than the
reader allows have such values.
-/

namespace LocaleLint

open Lint (zombiesIn)
open Removal (removeKeys)

/-- Removing keys leaves a text that can be read, in which each other key has the value it had. -/
def Spares (keys : List Text) (value : Json) : Prop :=
  (removeKeys keys value).depth ≤ Json.depthLimit ∧
    ∀ key ∉ keys, ∀ text, Leaf.valueIn? key (Leaf.all value) = some text →
      Leaf.valueIn? key (Leaf.all (removeKeys keys value)) = some text

/-- Removing keys leaves a text that can be read, in which none of them is declared. -/
def Clears (keys : List Text) (value : Json) : Prop :=
  ∀ key ∈ keys, (removeKeys keys value).depth ≤ Json.depthLimit ∧
    Leaf.valueIn? key (Leaf.all (removeKeys keys value)) = none

theorem Leaf.valueIn?_filter (key : Text) (keys : List Text) (leaves : List Leaf) :
    Leaf.valueIn? key (leaves.filter (·.key ∉ keys)) =
      if key ∈ keys then none else Leaf.valueIn? key leaves := by
  induction leaves using List.reverseRecOn with
  | nil => simp [Leaf.valueIn?]
  | append_singleton leaves leaf ih =>
    rw [List.filter_append, Leaf.valueIn?_append_singleton]
    by_cases removed : leaf.key ∈ keys
    · have dropped : [leaf].filter (·.key ∉ keys) = [] := by simp [removed]
      rw [dropped, List.append_nil, ih]
      by_cases same : leaf.key = key
      · simp [← same, removed]
      · simp [same]
    · have kept : [leaf].filter (·.key ∉ keys) = [leaf] := by simp [removed]
      rw [kept, Leaf.valueIn?_append_singleton, ih]
      by_cases same : leaf.key = key
      · simp [← same, removed]
      · simp [same]

/-- From a plain document exactly the given keys are removed. -/
theorem Plain.spares_and_clears {value : Json} (plain : Plain value)
    (room : value.depth < Json.depthLimit) {keys : List Text} (distinct : keys.Nodup)
    (declared : ∀ key ∈ keys, key ∈ (Leaf.all value).map (·.key)) :
    Spares keys value ∧ Clears keys value := by
  have depth : (removeKeys keys value).depth ≤ Json.depthLimit :=
    (Removal.depth_removeKeys_le value keys).trans room
  have leaves := plain.leaves_removeKeys distinct declared
  refine ⟨⟨depth, fun key live text found => ?_⟩, fun key inside => ⟨depth, ?_⟩⟩
  · rw [leaves, Leaf.valueIn?_filter, if_neg live]
    exact found
  · rw [leaves, Leaf.valueIn?_filter, if_pos inside]

theorem spares_nil {value : Json} (fits : value.depth ≤ Json.depthLimit) : Spares [] value := by
  refine ⟨?_, fun key _ text found => ?_⟩
  · rw [Removal.removeKeys_nil]
    exact fits
  · rw [Removal.removeKeys_nil]
    exact found

/-- Each entry of a document whose key is not removed is still there in what the document is
rewritten to, with the same value. -/
def KeepsEntries (removed : List Text) (document rewrite : Document) : Prop :=
  ∃ before after, LanguageFile.ofDocument document = .ok before ∧
    LanguageFile.ofDocument rewrite = .ok after ∧
    ∀ entry ∈ before.entries, entry.key ∉ removed →
      ∃ kept ∈ after.entries, kept.key = entry.key ∧ kept.value = entry.value

/-- A document can be read and does not declare a key. -/
def Lacks (key : Text) (document : Document) : Prop :=
  ∃ file, LanguageFile.ofDocument document = .ok file ∧ file.declares key = false

theorem exists_entry_iff {file : LanguageFile} {key text : Text} :
    (∃ entry ∈ file.entries, entry.key = key ∧ entry.value = text) ↔
      (file.get? key).map (·.value) = some text := by
  constructor
  · rintro ⟨entry, inside, named, rfl⟩
    rw [LanguageFile.get?_eq_some_iff.mpr ⟨inside, named⟩]
    rfl
  · intro found
    obtain ⟨entry, get, rfl⟩ := Option.map_eq_some_iff.mp found
    obtain ⟨inside, named⟩ := LanguageFile.get?_eq_some_iff.mp get
    exact ⟨entry, inside, named, rfl⟩

theorem keepsEntries_iff {removed : List Text} {document rewrite : Document} {value : Json}
    (read : document.json = .ok value) :
    KeepsEntries removed document rewrite ↔ ∃ left, rewrite.json = .ok left ∧
      ∀ key ∉ removed, ∀ text, Leaf.valueIn? key (Leaf.all value) = some text →
        Leaf.valueIn? key (Leaf.all left) = some text := by
  constructor
  · rintro ⟨before, after, readBefore, readAfter, kept⟩
    obtain ⟨value', same, rfl⟩ := LanguageFile.ofDocument_eq_ok_iff.mp readBefore
    obtain ⟨left, readLeft, rfl⟩ := LanguageFile.ofDocument_eq_ok_iff.mp readAfter
    cases read.symm.trans same
    obtain ⟨_, _, _, _, values⟩ := LanguageFile.ofLeaves_spec (Leaf.all value)
    obtain ⟨_, _, _, _, valuesLeft⟩ := LanguageFile.ofLeaves_spec (Leaf.all left)
    refine ⟨left, readLeft, fun key live text found => ?_⟩
    rw [← values] at found
    obtain ⟨entry, inside, rfl, rfl⟩ := exists_entry_iff.mpr found
    rw [← valuesLeft]
    exact exists_entry_iff.mp (kept entry inside live)
  · rintro ⟨left, readLeft, kept⟩
    refine ⟨_, _, LanguageFile.ofDocument_eq_ok_iff.mpr ⟨value, read, rfl⟩,
      LanguageFile.ofDocument_eq_ok_iff.mpr ⟨left, readLeft, rfl⟩, fun entry inside live => ?_⟩
    obtain ⟨_, _, _, _, values⟩ := LanguageFile.ofLeaves_spec (Leaf.all value)
    obtain ⟨_, _, _, _, valuesLeft⟩ := LanguageFile.ofLeaves_spec (Leaf.all left)
    refine exists_entry_iff.mpr ?_
    rw [valuesLeft]
    refine kept entry.key live entry.value ?_
    rw [← values]
    exact exists_entry_iff.mp ⟨entry, inside, rfl, rfl⟩

theorem lacks_iff {key : Text} {document : Document} :
    Lacks key document ↔ ∃ value, document.json = .ok value ∧
      Leaf.valueIn? key (Leaf.all value) = none := by
  constructor
  · rintro ⟨file, read, absent⟩
    obtain ⟨value, json, rfl⟩ := LanguageFile.ofDocument_eq_ok_iff.mp read
    obtain ⟨_, _, _, _, values⟩ := LanguageFile.ofLeaves_spec (Leaf.all value)
    refine ⟨value, json, ?_⟩
    rw [LanguageFile.declares_eq_isSome] at absent
    rw [← values, Option.isSome_eq_false_iff.mp absent |> Option.isNone_iff_eq_none.mp]
    rfl
  · rintro ⟨value, json, absent⟩
    obtain ⟨_, _, _, _, values⟩ := LanguageFile.ofLeaves_spec (Leaf.all value)
    refine ⟨_, LanguageFile.ofDocument_eq_ok_iff.mpr ⟨value, json, rfl⟩, ?_⟩
    rw [LanguageFile.declares_eq_isSome]
    rw [← values] at absent
    simpa using absent

section

variable {rules : RuleSettings} {inputs : Lint.Inputs} {outcome : Outcome}

private theorem plain_document (distinct : (inputs.languages.map (·.path)).Nodup)
    (linted : Lint.lint rules inputs = .ok outcome) {document : Document}
    (inside : document ∈ inputs.languages) {value : Json} (read : document.json = .ok value)
    (plain : Plain value) (room : value.depth < Json.depthLimit) :
    Spares (zombiesIn outcome.findings document.path) value ∧
      Clears (zombiesIn outcome.findings document.path) value := by
  have file := LanguageFile.ofDocument_eq_ok_iff.mpr ⟨value, read, rfl⟩
  obtain ⟨_, _, nodup, keys, _⟩ := LanguageFile.ofLeaves_spec (Leaf.all value)
  have some := Lint.zombiesIn_sublist distinct linted inside file
  exact plain.spares_and_clears room (nodup.sublist some) fun key zombie =>
    (keys key).mp (some.mem zombie)

private theorem rewritten_json {document other : Document} {value left : Json}
    (back : document.ReadsBack) (read : document.json = .ok value)
    (made : other = Fix.rewritten outcome.findings document value) :
    other.json = .ok left ↔
      left = removeKeys (zombiesIn outcome.findings document.path) value ∧
        (removeKeys (zombiesIn outcome.findings document.path) value).depth ≤ Json.depthLimit := by
  rw [made]
  exact Fix.json_rewritten_iff back read

/-- A fix keeps the entries that are no zombies exactly if removing the zombies from the value of
each file spares its other keys, provided that doubles are read back. It does for plain documents. -/
theorem Fix.plan_keepsEntries_iff (distinct : (inputs.languages.map (·.path)).Nodup)
    (linted : Lint.lint rules inputs = .ok outcome) :
    ∃ rewrites, Fix.plan outcome.findings inputs.languages = .ok rewrites ∧
      ((∀ document ∈ inputs.languages, document.ReadsBack) →
        ((∀ rewrite ∈ rewrites, ∀ document ∈ inputs.languages, document.path = rewrite.path →
            KeepsEntries (zombiesIn outcome.findings document.path) document rewrite) ↔
          ∀ document ∈ inputs.languages, ∀ value, document.json = .ok value →
            Spares (zombiesIn outcome.findings document.path) value)) ∧
      ∀ document ∈ inputs.languages, ∀ value, document.json = .ok value → Plain value →
        value.depth < Json.depthLimit →
          Spares (zombiesIn outcome.findings document.path) value := by
  have readable := Lint.readable_of_lint linted
  obtain ⟨rewrites, planned, content⟩ := @Fix.plan_spec outcome.findings _ distinct readable
  refine ⟨rewrites, planned, fun back => ⟨fun keeps document inside value read => ?_,
    fun spares rewrite listed document inside path => ?_⟩,
    fun document inside value read plain room =>
      (plain_document distinct linted inside read plain room).1⟩
  · have sound := sound_of_json read
    by_cases none : zombiesIn outcome.findings document.path = []
    · rw [none]
      exact spares_nil sound.2
    · by_cases same : (Fix.rewritten outcome.findings document value).content = document.content
      · -- The file is saved like that already, so it holds the value without the zombies.
        have made : document = Fix.rewritten outcome.findings document value :=
          congrArg (Document.mk document.path) same.symm
        obtain ⟨equal, fits⟩ := (rewritten_json (back document inside) read made).mp read
        refine ⟨fits, fun key _ text found => ?_⟩
        rw [← equal]
        exact found
      · have listed := (content _).mpr ⟨document, inside, value, read, none, rfl, same⟩
        obtain ⟨left, readLeft, kept⟩ :=
          (keepsEntries_iff read).mp (keeps _ listed document inside rfl)
        obtain ⟨rfl, fits⟩ := (rewritten_json (back document inside) read rfl).mp readLeft
        exact ⟨fits, kept⟩
  · obtain ⟨source, found, value, read, _, made, _⟩ := (content rewrite).mp listed
    have same : document.path = source.path := by
      rw [path, made]
      rfl
    cases List.inj_on_of_nodup_map distinct inside found same
    obtain ⟨fits, kept⟩ := spares document inside value read
    exact (keepsEntries_iff read).mpr
      ⟨_, (rewritten_json (back document inside) read made).mpr ⟨rfl, fits⟩, kept⟩

/-- A run that finds one key of a file unused. -/
def oneUnused (key : Text) : Outcome :=
  ⟨[⟨key, .zombie, .warning, "en.json".toList, [], [], some ⟨1, 1⟩, none⟩], 0, []⟩

/-- A file with two keys of which a view uses one. -/
def twoKeys : Lint.Inputs where
  languages := [⟨"en.json".toList,
    "\x7b\"A\": \x7b\"B\": \"x\", \"C\": \"y\"\x7d\x7d".toList⟩]
  views := [⟨"app.html".toList, "\x7b\x7b 'A.B' | translate \x7d\x7d".toList⟩]

def twoKeysFixed : Document :=
  ⟨"en.json".toList, "\x7b\n    \"A\": \x7b\n        \"B\": \"x\"\n    \x7d\n\x7d\n".toList⟩

def twoKeysValue : Json :=
  .object [("A".toList, .object [("B".toList, .string "x".toList), ("C".toList, .string "y".toList)])]

theorem twoKeys_json {document : Document} (inside : document ∈ twoKeys.languages) {value : Json}
    (read : document.json = .ok value) : value = twoKeysValue := by
  cases List.mem_singleton.mp inside
  exact Except.ok.inj (read.symm.trans rfl)

theorem twoKeys_readsBack (document : Document) (inside : document ∈ twoKeys.languages) :
    document.ReadsBack := by
  intro value read
  rw [twoKeys_json inside read]
  exact List.forall_mem_nil _

theorem twoKeys_plain {document : Document} (inside : document ∈ twoKeys.languages) {value : Json}
    (read : document.json = .ok value) : Plain value ∧ value.depth < Json.depthLimit := by
  rw [twoKeys_json inside read]
  refine ⟨.object (by decide) (by decide) fun member inside => ?_, by decide⟩
  cases List.mem_singleton.mp inside
  refine .object (by decide) (by decide) fun member inside => ?_
  rcases List.mem_pair.mp inside with rfl | rfl
  · exact .string _
  · exact .string _

set_option maxRecDepth 100000 in
/-- A run finds the key that is not used, a fix takes it out, and the next run finds nothing. -/
theorem twoKeys_settled :
    Lint.lint .default twoKeys = .ok (oneUnused "A.C".toList) ∧
      Fix.plan (oneUnused "A.C".toList).findings twoKeys.languages = .ok [twoKeysFixed] ∧
      Lint.lint .default ⟨[twoKeysFixed], twoKeys.views⟩ = .ok ⟨[], 0, []⟩ := by
  simp only [Lint.lint, Lint.scan, RuleSettings.validate, Lint.fragments,
    KeyPattern.ofFragments_compose]
  decide +kernel

theorem twoKeys_linted : Lint.lint .default twoKeys = .ok (oneUnused "A.C".toList) :=
  twoKeys_settled.1

theorem twoKeys_planned :
    Fix.plan (oneUnused "A.C".toList).findings twoKeys.languages = .ok [twoKeysFixed] :=
  twoKeys_settled.2.1

theorem twoKeysFixed_linted :
    Lint.lint .default ⟨[twoKeysFixed], twoKeys.views⟩ = .ok ⟨[], 0, []⟩ :=
  twoKeys_settled.2.2

theorem Fix.plan_keepsEntries_twoKeys :
    (twoKeys.languages.map (·.path)).Nodup ∧
      Lint.lint .default twoKeys = .ok (oneUnused "A.C".toList) ∧
      (∀ document ∈ twoKeys.languages, document.ReadsBack) ∧
      ∃ rewrites, Fix.plan (oneUnused "A.C".toList).findings twoKeys.languages = .ok rewrites ∧
        ∀ rewrite ∈ rewrites, ∀ document ∈ twoKeys.languages, document.path = rewrite.path →
          KeepsEntries (zombiesIn (oneUnused "A.C".toList).findings document.path) document
            rewrite := by
  have distinct : (twoKeys.languages.map (·.path)).Nodup := by decide
  obtain ⟨rewrites, planned, iff, plain⟩ := Fix.plan_keepsEntries_iff distinct twoKeys_linted
  refine ⟨distinct, twoKeys_linted, twoKeys_readsBack, rewrites, planned,
    (iff twoKeys_readsBack).mpr fun document inside value read => ?_⟩
  obtain ⟨shape, room⟩ := twoKeys_plain inside read
  exact plain document inside value read shape room

/-- A list whose only other item is unused. -/
def mixedList : Lint.Inputs where
  languages := [⟨"en.json".toList, "\x7b\"A\": [\"x\", \x7b\"B\": \"y\"\x7d]\x7d".toList⟩]
  views := [⟨"app.html".toList, "\x7b\x7b 'A.0' | translate \x7d\x7d".toList⟩]

set_option maxRecDepth 100000 in
/-- When the other item goes, the item that is used becomes part of a list of strings. -/
theorem Fix.plan_loses_entry :
    ¬ ∀ (rules : RuleSettings) (inputs : Lint.Inputs) (outcome : Outcome)
        (rewrites : List Document), (inputs.languages.map (·.path)).Nodup →
      Lint.lint rules inputs = .ok outcome →
      Fix.plan outcome.findings inputs.languages = .ok rewrites →
      ∀ rewrite ∈ rewrites, ∀ document ∈ inputs.languages, document.path = rewrite.path →
        KeepsEntries (zombiesIn outcome.findings document.path) document rewrite := by
  intro claim
  have keeps := claim .default mixedList (oneUnused "A.1.B".toList)
    [⟨"en.json".toList,
      "\x7b\n    \"A\": [\n        \"x\"\n    ]\n\x7d\n".toList⟩]
    (by decide) (by decide +kernel) (by decide +kernel) _ List.mem_cons_self _ List.mem_cons_self
    rfl
  obtain ⟨before, after, readBefore, readAfter, kept⟩ := keeps
  have expectedBefore : before = .ofEntries "en.json".toList "en".toList
      [⟨"A.0".toList, "x".toList, 1⟩, ⟨"A.1.B".toList, "y".toList, 1⟩] :=
    Except.ok.inj (readBefore.symm.trans (by decide +kernel))
  have expectedAfter : after = .ofEntries "en.json".toList "en".toList
      [⟨"A".toList, "x".toList, 2⟩] :=
    Except.ok.inj (readAfter.symm.trans (by decide +kernel))
  subst expectedBefore expectedAfter
  revert kept
  decide

/-- A fix takes every zombie out of its file exactly if removing the zombies from the value of each
file clears it of them, provided that doubles are read back. It does for plain documents. -/
theorem Fix.plan_lacks_iff (distinct : (inputs.languages.map (·.path)).Nodup)
    (linted : Lint.lint rules inputs = .ok outcome) :
    ∃ rewrites, Fix.plan outcome.findings inputs.languages = .ok rewrites ∧
      ((∀ document ∈ inputs.languages, document.ReadsBack) →
        ((∀ finding ∈ outcome.findings, finding.rule = .zombie →
            ∃ document ∈ Fix.applied rewrites inputs.languages,
              document.path = finding.sourceFile ∧ Lacks finding.key document) ↔
          ∀ document ∈ inputs.languages, ∀ value, document.json = .ok value →
            Clears (zombiesIn outcome.findings document.path) value)) ∧
      ∀ document ∈ inputs.languages, ∀ value, document.json = .ok value → Plain value →
        value.depth < Json.depthLimit →
          Clears (zombiesIn outcome.findings document.path) value := by
  have readable := Lint.readable_of_lint linted
  obtain ⟨rewrites, planned, _⟩ := @Fix.plan_spec outcome.findings _ distinct readable
  have result : ∀ document ∈ inputs.languages, ∀ value, document.json = .ok value →
      (rewrites.find? (·.path = document.path)).getD document =
        if zombiesIn outcome.findings document.path = [] then document
        else Fix.rewritten outcome.findings document value :=
    fun document inside value read => Fix.plan_applied distinct readable planned inside read
  refine ⟨rewrites, planned, fun back => ⟨fun lacks document inside value read key zombie => ?_,
    fun clears finding found zombie => ?_⟩,
    fun document inside value read plain room =>
      (plain_document distinct linted inside read plain room).2⟩
  · obtain ⟨finding, found, rule, source, rfl⟩ := Lint.mem_zombiesIn.mp zombie
    obtain ⟨saved, applied, path, absent⟩ := lacks finding found rule
    obtain ⟨origin, given, rfl⟩ := List.mem_map.mp applied
    obtain ⟨originValue, originRead⟩ := readable origin given
    have same : origin.path = document.path := by
      rw [result origin given originValue originRead] at path
      split at path
      · exact path.trans source
      · exact path.trans source
    cases List.inj_on_of_nodup_map distinct given inside same
    rw [result document inside value read, if_neg (List.ne_nil_of_mem zombie)] at absent
    obtain ⟨left, readLeft, gone⟩ := lacks_iff.mp absent
    obtain ⟨rfl, fits⟩ := (rewritten_json (back document inside) read rfl).mp readLeft
    exact ⟨fits, gone⟩
  · obtain ⟨document, inside, source⟩ := Lint.exists_document_of_zombie linted found zombie
    obtain ⟨value, read⟩ := readable document inside
    have listed : finding.key ∈ zombiesIn outcome.findings document.path :=
      Lint.mem_zombiesIn.mpr ⟨finding, found, zombie, source.symm, rfl⟩
    obtain ⟨fits, gone⟩ := clears document inside value read finding.key listed
    refine ⟨_, List.mem_map_of_mem inside, ?_, ?_⟩
    · rw [result document inside value read, if_neg (List.ne_nil_of_mem listed)]
      exact source
    · rw [result document inside value read, if_neg (List.ne_nil_of_mem listed)]
      exact lacks_iff.mpr
        ⟨_, (rewritten_json (back document inside) read rfl).mpr ⟨rfl, fits⟩, gone⟩

theorem Fix.plan_lacks_twoKeys :
    (twoKeys.languages.map (·.path)).Nodup ∧
      Lint.lint .default twoKeys = .ok (oneUnused "A.C".toList) ∧
      (∀ document ∈ twoKeys.languages, document.ReadsBack) ∧
      ∃ rewrites, Fix.plan (oneUnused "A.C".toList).findings twoKeys.languages = .ok rewrites ∧
        ∀ finding ∈ (oneUnused "A.C".toList).findings, finding.rule = .zombie →
          ∃ document ∈ Fix.applied rewrites twoKeys.languages,
            document.path = finding.sourceFile ∧ Lacks finding.key document := by
  have distinct : (twoKeys.languages.map (·.path)).Nodup := by decide
  obtain ⟨rewrites, planned, iff, plain⟩ := Fix.plan_lacks_iff distinct twoKeys_linted
  refine ⟨distinct, twoKeys_linted, twoKeys_readsBack, rewrites, planned,
    (iff twoKeys_readsBack).mpr fun document inside value read => ?_⟩
  obtain ⟨shape, room⟩ := twoKeys_plain inside read
  exact plain document inside value read shape room

/-- An object inside another one has a name with a dot. -/
def dottedName : Lint.Inputs where
  languages := [⟨"en.json".toList, "\x7b\"A\": \x7b\"B.C\": \"x\"\x7d\x7d".toList⟩]
  views := []

set_option maxRecDepth 100000 in
/-- A name with a dot is looked for at the top only. -/
theorem Fix.plan_leaves_zombie :
    ¬ ∀ (rules : RuleSettings) (inputs : Lint.Inputs) (outcome : Outcome)
        (rewrites : List Document), (inputs.languages.map (·.path)).Nodup →
      Lint.lint rules inputs = .ok outcome →
      Fix.plan outcome.findings inputs.languages = .ok rewrites →
      ∀ finding ∈ outcome.findings, finding.rule = .zombie →
        ∃ document ∈ Fix.applied rewrites inputs.languages,
          document.path = finding.sourceFile ∧ Lacks finding.key document := by
  intro claim
  obtain ⟨document, inside, _, file, read, absent⟩ := claim .default dottedName
    (oneUnused "A.B.C".toList)
    [⟨"en.json".toList,
      "\x7b\n    \"A\": \x7b\n        \"B.C\": \"x\"\n    \x7d\n\x7d\n".toList⟩]
    (by decide) (by decide +kernel) (by decide +kernel) _ List.mem_cons_self rfl
  cases List.mem_singleton.mp inside
  have expected : file = .ofEntries "en.json".toList "en".toList
      [⟨"A.B.C".toList, "x".toList, 2⟩] :=
    Except.ok.inj (read.symm.trans (by decide +kernel))
  subst expected
  revert absent
  decide

end

end LocaleLint
