import Mathlib
import LocaleLint.Proofs.Fix.Entries

/-!
# Fixing a second time

A second fix has something to write only if the first one has left keys behind that nothing refers
to, and removing them changes a document once more. It is left without work if the documents are
plain and what the views refer to stays the same, as it does unless the search is deep. Doubles are
assumed to be read back, so that the second fix starts from what the first one had in hand.
-/

namespace LocaleLint

open Lint (zombiesIn Refers)
open Removal (removeKeys)

/-- Keys that are removed in a first and in a second fix leave a document as it is after the first
one. -/
def Steady (first second : List Text) (document : Document) (value : Json) : Prop :=
  if first = [] then second = [] ∨ document.content = Editor.textOf (removeKeys second value)
  else removeKeys second (removeKeys first value) = removeKeys first value

theorem steady_nil (first : List Text) (document : Document) (value : Json) :
    Steady first [] document value := by
  unfold Steady
  split
  · exact .inl rfl
  · exact Removal.removeKeys_nil _

namespace Fix

section

variable {rules : RuleSettings} {documents views rewrites : List Document}
  {first second : Outcome}

/-- After the first fix a document has its old path, and its old value without the zombies. -/
private theorem json_applied (distinct : (documents.map (·.path)).Nodup)
    (readable : ∀ document ∈ documents, ∃ value, document.json = .ok value)
    (planned : plan first.findings documents = .ok rewrites) {document next : Document}
    (inside : document ∈ documents) (back : document.ReadsBack)
    (made : (rewrites.find? (·.path = document.path)).getD document = next) {value left : Json}
    (read : document.json = .ok value) (reread : next.json = .ok left) :
    next.path = document.path ∧
      left = removeKeys (zombiesIn first.findings document.path) value := by
  rw [plan_applied distinct readable planned inside read] at made
  subst made
  by_cases none : zombiesIn first.findings document.path = []
  · rw [if_pos none] at reread ⊢
    cases read.symm.trans reread
    rw [none, Removal.removeKeys_nil]
    exact ⟨rfl, rfl⟩
  · rw [if_neg none] at reread ⊢
    exact ⟨rfl, ((json_rewritten_iff back read).mp reread).1⟩

/-- A document is steady exactly if it is saved without what a second fix removes. -/
private theorem steady_iff (second : List Text) (distinct : (documents.map (·.path)).Nodup)
    (readable : ∀ document ∈ documents, ∃ value, document.json = .ok value)
    (planned : plan first.findings documents = .ok rewrites) {document next : Document}
    (inside : document ∈ documents) (back : document.ReadsBack)
    (made : (rewrites.find? (·.path = document.path)).getD document = next) {value left : Json}
    (read : document.json = .ok value) (reread : next.json = .ok left) :
    Steady (zombiesIn first.findings document.path) second document value ↔
      second = [] ∨ Editor.textOf (removeKeys second left) = next.content := by
  obtain ⟨-, rfl⟩ := json_applied distinct readable planned inside back made read reread
  rw [plan_applied distinct readable planned inside read] at made
  subst made
  by_cases none : zombiesIn first.findings document.path = []
  · rw [Steady, if_pos none, if_pos none, none, Removal.removeKeys_nil]
    exact or_congr_right eq_comm
  · rw [if_neg none] at reread
    rw [Steady, if_neg none, if_neg none]
    obtain ⟨-, fits⟩ := (json_rewritten_iff back read).mp reread
    have sound := Removal.sound_removeKeys (sound_of_json read).1
      (zombiesIn first.findings document.path)
    have backLeft := Removal.readsBack_removeKeys (back value read)
      (zombiesIn first.findings document.path)
    constructor
    · intro same
      exact .inr (congrArg Editor.textOf same)
    · rintro (nothing | saved)
      · rw [nothing, Removal.removeKeys_nil]
      · exact textOf_injective (Removal.sound_removeKeys sound _)
          (Removal.readsBack_removeKeys backLeft _) sound backLeft fits saved

/-- After the first fix a plain document has no zombies if views still refer to what they referred
to. -/
private theorem zombies_again (distinct : (documents.map (·.path)).Nodup)
    (linted : Lint.lint rules ⟨documents, views⟩ = .ok first)
    (planned : plan first.findings documents = .ok rewrites)
    (relinted : Lint.lint rules ⟨applied rewrites documents, views⟩ = .ok second)
    (refers : ∀ key, Refers rules ⟨documents, views⟩ key →
      Refers rules ⟨applied rewrites documents, views⟩ key)
    {document : Document} (inside : document ∈ documents) (back : document.ReadsBack)
    {value : Json} (read : document.json = .ok value) (plain : Plain value) :
    zombiesIn second.findings document.path = [] := by
  have redistinct : ((applied rewrites documents).map (·.path)).Nodup :=
    (paths_applied rewrites documents).symm ▸ distinct
  have placed := List.mem_map_of_mem (f := fun document =>
    (rewrites.find? (·.path = document.path)).getD document) inside
  obtain ⟨_, left, refile, reread⟩ := Lint.exists_file_of_lint relinted placed
  obtain ⟨path, rfl⟩ := json_applied distinct (Lint.readable_of_lint linted) planned inside back
    rfl read reread
  obtain ⟨value', read', rfl⟩ := LanguageFile.ofDocument_eq_ok_iff.mp refile
  cases reread.symm.trans read'
  obtain ⟨file, _, filed, _⟩ := Lint.exists_file_of_lint linted inside
  have zombies := Lint.mem_zombies_iff distinct linted inside filed
  have rezombies := Lint.mem_zombies_iff redistinct relinted placed refile
  have some := Lint.zombiesIn_sublist distinct linted inside filed
  obtain ⟨value', read', rfl⟩ := LanguageFile.ofDocument_eq_ok_iff.mp filed
  cases read.symm.trans read'
  obtain ⟨_, _, nodup, declared, _⟩ := LanguageFile.ofLeaves_spec (Leaf.all value)
  rw [← path, List.eq_nil_iff_forall_not_mem]
  intro key zombie
  obtain ⟨kept, on, unused, heeded⟩ := (rezombies key).mp zombie
  rw [(LanguageFile.ofLeaves_spec _).2.2.2.1, plain.leaves_removeKeys (nodup.sublist some)
    fun key zombie => (declared key).mp (some.mem zombie)] at kept
  obtain ⟨leaf, left, rfl⟩ := List.mem_map.mp kept
  obtain ⟨found, stays⟩ := List.mem_filter.mp left
  have spared : leaf.key ∉ zombiesIn first.findings document.path := by simpa using stays
  -- A key that was spared and is not ignored was referred to, and still is.
  refine spared ((zombies leaf.key).mpr ⟨?_, on, fun used => unused (refers _ used), heeded⟩)
  exact (declared leaf.key).mpr (List.mem_map_of_mem found)

/-- A second fix writes nothing exactly if removing what is unused after the first fix changes no
document. It writes nothing if the documents are plain and what views refer to stays. -/
theorem plan_again_eq_nil_iff (distinct : (documents.map (·.path)).Nodup)
    (back : ∀ document ∈ documents, document.ReadsBack)
    (linted : Lint.lint rules ⟨documents, views⟩ = .ok first)
    (planned : plan first.findings documents = .ok rewrites)
    (relinted : Lint.lint rules ⟨applied rewrites documents, views⟩ = .ok second) :
    (plan second.findings (applied rewrites documents) = .ok [] ↔
      ∀ document ∈ documents, ∀ value, document.json = .ok value →
        Steady (zombiesIn first.findings document.path) (zombiesIn second.findings document.path)
          document value) ∧
    ((rules.deepSearch.isOn = false ∨ ∀ key, Refers rules ⟨documents, views⟩ key →
        Refers rules ⟨applied rewrites documents, views⟩ key) →
      (∀ document ∈ documents, ∀ value, document.json = .ok value → Plain value) →
      plan second.findings (applied rewrites documents) = .ok []) := by
  have readable := Lint.readable_of_lint linted
  have rereadable := Lint.readable_of_lint relinted
  have redistinct : ((applied rewrites documents).map (·.path)).Nodup :=
    (paths_applied rewrites documents).symm ▸ distinct
  have settled : plan second.findings (applied rewrites documents) = .ok [] ↔
      ∀ document ∈ documents, ∀ value, document.json = .ok value →
        Steady (zombiesIn first.findings document.path) (zombiesIn second.findings document.path)
          document value := by
    rw [plan_eq_nil_iff redistinct rereadable]
    constructor
    · intro saved document inside value read
      have placed := List.mem_map_of_mem (f := fun document =>
        (rewrites.find? (·.path = document.path)).getD document) inside
      obtain ⟨left, reread⟩ := rereadable _ placed
      have same := back document inside
      obtain ⟨path, -⟩ := json_applied distinct readable planned inside same rfl read reread
      have done := saved _ placed left reread
      rw [rewritten, path] at done
      exact (steady_iff _ distinct readable planned inside same rfl read reread).mpr done
    · intro steady next placed left reread
      obtain ⟨document, inside, made⟩ := List.mem_map.mp placed
      obtain ⟨value, read⟩ := readable document inside
      have same := back document inside
      obtain ⟨path, -⟩ := json_applied distinct readable planned inside same made read reread
      rw [rewritten, path, ← steady_iff _ distinct readable planned inside same made read reread]
      exact steady document inside value read
  refine ⟨settled, fun stays plain => settled.mpr fun document inside value read => ?_⟩
  have refers : ∀ key, Refers rules ⟨documents, views⟩ key →
      Refers rules ⟨applied rewrites documents, views⟩ key := by
    rcases stays with shallow | stays
    · exact fun key used => used.of_shallow shallow relinted
    · exact stays
  rw [zombies_again distinct linted planned relinted refers inside (back document inside) read
    (plain _ inside _ read)]
  exact steady_nil _ _ _

theorem plan_again_eq_nil_twoKeys :
    (twoKeys.languages.map (·.path)).Nodup ∧
      (∀ document ∈ twoKeys.languages, document.ReadsBack) ∧
      Lint.lint .default twoKeys = .ok (oneUnused "A.C".toList) ∧
      plan (oneUnused "A.C".toList).findings twoKeys.languages = .ok [twoKeysFixed] ∧
      Lint.lint .default ⟨applied [twoKeysFixed] twoKeys.languages, twoKeys.views⟩ =
        .ok ⟨[], 0, []⟩ ∧
      plan [] (applied [twoKeysFixed] twoKeys.languages) = .ok [] := by
  have distinct : (twoKeys.languages.map (·.path)).Nodup := by decide
  have fixed : applied [twoKeysFixed] twoKeys.languages = [twoKeysFixed] := by decide
  have relinted : Lint.lint .default
      ⟨applied [twoKeysFixed] twoKeys.languages, twoKeys.views⟩ = .ok ⟨[], 0, []⟩ := by
    rw [fixed]
    exact twoKeysFixed_linted
  refine ⟨distinct, twoKeys_readsBack, twoKeys_linted, twoKeys_planned, relinted, ?_⟩
  exact (plan_again_eq_nil_iff distinct twoKeys_readsBack twoKeys_linted twoKeys_planned
    relinted).2 (.inl (by decide))
    fun document inside value read => (twoKeys_plain inside read).1

/-- What a run over a mixed list finds once the other item is gone: the item that is used is a list
of strings now. -/
def mixedListOutcome : Outcome :=
  ⟨[⟨"A".toList, .zombie, .warning, "en.json".toList, [], [], some ⟨2, 1⟩, none⟩,
    ⟨"A.0".toList, .absent, .error, "app.html".toList, ["en.json".toList], [], some ⟨1, 5⟩,
      some "\x7b\x7b 'A.0' | translate \x7d\x7d".toList⟩], 0, []⟩

set_option maxRecDepth 100000 in
/-- When the other item of a mixed list goes, a second fix removes what is left. -/
theorem plan_rewrites_again :
    ¬ ∀ (rules : RuleSettings) (documents views rewrites : List Document)
        (first second : Outcome), (documents.map (·.path)).Nodup →
      Lint.lint rules ⟨documents, views⟩ = .ok first →
      plan first.findings documents = .ok rewrites →
      Lint.lint rules ⟨applied rewrites documents, views⟩ = .ok second →
      plan second.findings (applied rewrites documents) = .ok [] := by
  intro claim
  have nothing := claim .default mixedList.languages mixedList.views
    [⟨"en.json".toList, "\x7b\n    \"A\": [\n        \"x\"\n    ]\n\x7d\n".toList⟩]
    (oneUnused "A.1.B".toList) mixedListOutcome
    (by decide) (by decide +kernel) (by decide +kernel) (by decide +kernel)
  revert nothing
  decide +kernel

end

end Fix

end LocaleLint
