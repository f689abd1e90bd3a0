import Mathlib
import LocaleLint.Proofs.Fix.Entries
import LocaleLint.Proofs.Language.Weight

/-!
# Fixing again and again

A document that is linted and fixed in rounds is rewritten once for its layout at most, and each
other rewrite makes its value lighter. So the number of rewrites is bounded by what the document
holds at first, and in the end nothing is rewritten any more. Doubles are assumed to be read back:
a number that comes back as another one would be written once more.
-/

namespace LocaleLint.Fix

open Lint (zombiesIn)

/-- A round: documents are linted with some views, and what is planned for them is put in place. -/
structure Round (rules : RuleSettings) (views documents rewrites after : List Document) :
    Prop where
  planned : ∃ outcome, Lint.lint rules ⟨documents, views⟩ = .ok outcome ∧
    plan outcome.findings documents = .ok rewrites
  placed : after = applied rewrites documents

theorem applied_nil (documents : List Document) : applied [] documents = documents :=
  List.map_id documents

/-- A document stays as it is if no rewrite has its path. Otherwise it is what the document is
rewritten to, and that is another text. -/
theorem applied_cases {findings : List Finding} {documents rewrites : List Document}
    (distinct : (documents.map (·.path)).Nodup)
    (readable : ∀ document ∈ documents, ∃ value, document.json = .ok value)
    (planned : plan findings documents = .ok rewrites) {document : Document}
    (inside : document ∈ documents) {value : Json} (read : document.json = .ok value) :
    (document.path ∉ rewrites.map (·.path) ∧
      (rewrites.find? (·.path = document.path)).getD document = document) ∨
    (document.path ∈ rewrites.map (·.path) ∧
      (rewrites.find? (·.path = document.path)).getD document =
        rewritten findings document value ∧
      (rewritten findings document value).content ≠ document.content) := by
  by_cases listed : document.path ∈ rewrites.map (·.path)
  · right
    obtain ⟨_, again, content⟩ := plan_spec distinct readable
    cases planned.symm.trans again
    obtain ⟨rewrite, found, path⟩ := List.mem_map.mp listed
    obtain ⟨other, given, _, read', some, rfl, modified⟩ := (content rewrite).mp found
    cases List.inj_on_of_nodup_map distinct given inside path
    cases read.symm.trans read'
    rw [plan_applied distinct readable planned inside read, if_neg some]
    exact ⟨listed, rfl, modified⟩
  · have absent : rewrites.find? (·.path = document.path) = none :=
      List.find?_eq_none.mpr fun rewrite found => by
        simpa using fun same : rewrite.path = document.path =>
          listed (same ▸ List.mem_map_of_mem found)
    exact .inl ⟨listed, by rw [absent, Option.getD_none]⟩

/-- A bound for how often a document can still be rewritten: the weight of its value, and one more
if it is not saved in the layout of a rewrite. -/
def rewritesLeft (document : Document) : Nat :=
  match document.json with
  | .ok value => value.weight + if document.content = Editor.textOf value then 0 else 1
  | .error _ => 0

theorem rewritesLeft_le {document : Document} {value : Json} (read : document.json = .ok value) :
    rewritesLeft document ≤ 1 + 2 * value.count := by
  have light := Json.weight_le value
  rw [rewritesLeft, read]
  dsimp only
  split <;> omega

/-- A rewrite that changes the text leaves less to rewrite. -/
theorem rewritesLeft_rewritten_lt {findings : List Finding} {document : Document} {value : Json}
    (back : document.ReadsBack) (read : document.json = .ok value)
    (modified : (rewritten findings document value).content ≠ document.content) :
    rewritesLeft (rewritten findings document value) < rewritesLeft document := by
  have before : rewritesLeft document =
      value.weight + if document.content = Editor.textOf value then 0 else 1 := by
    rw [rewritesLeft, read]
  cases again : (rewritten findings document value).json with
  | error failure =>
    have none : rewritesLeft (rewritten findings document value) = 0 := by
      rw [rewritesLeft, again]
    have some := Json.weight_pos value
    omega
  | ok left =>
    obtain ⟨rfl, -⟩ := (json_rewritten_iff back read).mp again
    have after : rewritesLeft (rewritten findings document value) =
        (Removal.removeKeys (zombiesIn findings document.path) value).weight := by
      rw [rewritesLeft, again]
      dsimp only
      rw [rewritten, if_pos rfl, Nat.add_zero]
    rcases Removal.shrinks_removeKeys (zombiesIn findings document.path) value with
      same | lighter
    · -- Only the layout has changed, so the document was not saved in that of a rewrite.
      have unsaved : document.content ≠ Editor.textOf value := by
        rw [rewritten, same] at modified
        exact modified.symm
      rw [before, after, same, if_neg unsaved]
      omega
    · omega

section

variable {rules : RuleSettings} {views : List Document}

theorem Round.readable {documents rewrites after : List Document}
    (round : Round rules views documents rewrites after) :
    ∀ document ∈ documents, ∃ value, document.json = .ok value := by
  obtain ⟨outcome, linted, -⟩ := round.planned
  exact Lint.readable_of_lint linted

theorem Round.paths {documents rewrites after : List Document}
    (round : Round rules views documents rewrites after) :
    after.map (·.path) = documents.map (·.path) := by
  rw [round.placed, paths_applied]

/-- What is read back before a round is read back after it. -/
theorem Round.readsBack {documents rewrites after : List Document}
    (round : Round rules views documents rewrites after)
    (distinct : (documents.map (·.path)).Nodup)
    (back : ∀ document ∈ documents, document.ReadsBack) :
    ∀ document ∈ after, document.ReadsBack := by
  obtain ⟨outcome, -, planned⟩ := round.planned
  rw [round.placed]
  intro next placed
  obtain ⟨document, inside, rfl⟩ := List.mem_map.mp placed
  obtain ⟨value, read⟩ := round.readable document inside
  rcases applied_cases distinct round.readable planned inside read with
    ⟨-, same⟩ | ⟨-, changed, -⟩
  · rw [same]
    exact back document inside
  · rw [changed]
    intro left reread
    obtain ⟨rfl, -⟩ := (json_rewritten_iff (back document inside) read).mp reread
    exact Removal.readsBack_removeKeys (back document inside value read) _

/-- In a round a document is rewritten and has less left, or it stays as it is. -/
theorem Round.exists_next {documents rewrites after : List Document}
    (round : Round rules views documents rewrites after)
    (distinct : (documents.map (·.path)).Nodup)
    (back : ∀ document ∈ documents, document.ReadsBack) {document : Document}
    (inside : document ∈ documents) :
    ∃ next ∈ after, next.path = document.path ∧
      next = (rewrites.find? (·.path = document.path)).getD document ∧
      rewritesLeft next + (if document.path ∈ rewrites.map (·.path) then 1 else 0) ≤
        rewritesLeft document := by
  obtain ⟨value, read⟩ := round.readable document inside
  obtain ⟨outcome, -, planned⟩ := round.planned
  refine ⟨_, round.placed ▸ List.mem_map_of_mem inside, ?_, rfl, ?_⟩
  · rcases applied_cases distinct round.readable planned inside read with
      ⟨-, same⟩ | ⟨-, changed, -⟩
    · rw [same]
    · rw [changed]
      rfl
  · rcases applied_cases distinct round.readable planned inside read with
      ⟨absent, same⟩ | ⟨listed, changed, modified⟩
    · rw [same, if_neg absent]
      exact Nat.le_refl _
    · rw [changed, if_pos listed]
      exact rewritesLeft_rewritten_lt (back document inside) read modified

/-- What is left to rewrite in all documents together. -/
def totalLeft (documents : List Document) : Nat := (documents.map rewritesLeft).sum

/-- A round leaves no more to rewrite than there was, and less if it rewrites anything. -/
theorem Round.totalLeft_le {documents rewrites after : List Document}
    (round : Round rules views documents rewrites after)
    (distinct : (documents.map (·.path)).Nodup)
    (back : ∀ document ∈ documents, document.ReadsBack) :
    totalLeft after ≤ totalLeft documents ∧
      (rewrites ≠ [] → totalLeft after < totalLeft documents) := by
  have each : ∀ document ∈ documents,
      rewritesLeft ((rewrites.find? (·.path = document.path)).getD document) +
        (if document.path ∈ rewrites.map (·.path) then 1 else 0) ≤ rewritesLeft document := by
    intro document inside
    obtain ⟨_, _, _, rfl, less⟩ := round.exists_next distinct back inside
    exact less
  rw [totalLeft, totalLeft, round.placed, applied, List.map_map]
  refine ⟨List.sum_le_sum fun document inside => (Nat.le_add_right _ _).trans (each _ inside),
    fun some => ?_⟩
  obtain ⟨rewrite, rest, rfl⟩ := List.exists_cons_of_ne_nil some
  obtain ⟨outcome, -, planned⟩ := round.planned
  obtain ⟨_, again, content⟩ := plan_spec distinct round.readable
  cases planned.symm.trans again
  obtain ⟨document, inside, _, _, _, path, _⟩ := (content rewrite).mp List.mem_cons_self
  refine List.sum_lt_sum _ _
    (fun document inside => (Nat.le_add_right _ _).trans (each _ inside)) ⟨document, inside, ?_⟩
  have listed : document.path ∈ (rewrite :: rest).map (·.path) := by
    rw [path]
    exact List.mem_cons_self
  have less := each document inside
  rwa [if_pos listed] at less

variable {documents rewrites : Nat → List Document}

theorem paths_of_rounds {n : Nat}
    (rounds : ∀ i < n, Round rules views (documents i) (rewrites i) (documents (i + 1))) :
    (documents n).map (·.path) = (documents 0).map (·.path) := by
  induction n with
  | zero => rfl
  | succ n ih =>
    rw [(rounds n (Nat.lt_succ_self n)).paths]
    exact ih fun i less => rounds i (Nat.lt_succ_of_lt less)

theorem readsBack_of_rounds (distinct : ((documents 0).map (·.path)).Nodup)
    (back : ∀ document ∈ documents 0, document.ReadsBack) {n : Nat}
    (rounds : ∀ i < n, Round rules views (documents i) (rewrites i) (documents (i + 1))) :
    ∀ document ∈ documents n, document.ReadsBack := by
  induction n with
  | zero => exact back
  | succ n ih =>
    have earlier := fun i (less : i < n) => rounds i (Nat.lt_succ_of_lt less)
    exact (rounds n (Nat.lt_succ_self n)).readsBack (paths_of_rounds earlier ▸ distinct)
      (ih earlier)

/-- After some rounds a document has less left by the number of times that it was rewritten. -/
theorem count_add_rewritesLeft_le (distinct : ((documents 0).map (·.path)).Nodup)
    (back : ∀ document ∈ documents 0, document.ReadsBack) {n : Nat}
    (rounds : ∀ i < n, Round rules views (documents i) (rewrites i) (documents (i + 1)))
    {document : Document} (inside : document ∈ documents 0) :
    ∃ current ∈ documents n, current.path = document.path ∧
      Nat.count (fun i => document.path ∈ (rewrites i).map (·.path)) n + rewritesLeft current ≤
        rewritesLeft document := by
  induction n with
  | zero => exact ⟨document, inside, rfl, by rw [Nat.count_zero, Nat.zero_add]⟩
  | succ n ih =>
    have earlier := fun i (less : i < n) => rounds i (Nat.lt_succ_of_lt less)
    obtain ⟨current, found, path, bound⟩ := ih earlier
    have round := rounds n (Nat.lt_succ_self n)
    obtain ⟨next, placed, samePath, -, less⟩ :=
      round.exists_next (paths_of_rounds earlier ▸ distinct)
        (readsBack_of_rounds distinct back earlier) found
    refine ⟨next, placed, samePath.trans path, ?_⟩
    rw [path] at less
    rw [Nat.count_succ]
    omega

/-- However often documents are linted and fixed, each is rewritten at most once more than twice
the number of values in it. If it goes on for ever, in the end nothing is rewritten. -/
theorem rounds_settle (distinct : ((documents 0).map (·.path)).Nodup)
    (back : ∀ document ∈ documents 0, document.ReadsBack) :
    (∀ n, (∀ i < n, Round rules views (documents i) (rewrites i) (documents (i + 1))) →
      ∀ document ∈ documents 0, ∀ value, document.json = .ok value →
        Nat.count (fun i => document.path ∈ (rewrites i).map (·.path)) n ≤ 1 + 2 * value.count) ∧
    ((∀ i, Round rules views (documents i) (rewrites i) (documents (i + 1))) →
      ∃ last, ∀ i ≥ last, rewrites i = [] ∧ documents i = documents last) := by
  refine ⟨fun n rounds document inside value read => ?_, fun rounds => ?_⟩
  · obtain ⟨current, _, _, bound⟩ := count_add_rewritesLeft_le distinct back rounds inside
    have most := rewritesLeft_le read
    omega
  · have step : ∀ i, totalLeft (documents (i + 1)) ≤ totalLeft (documents i) ∧
        (rewrites i ≠ [] → totalLeft (documents (i + 1)) < totalLeft (documents i)) := by
      intro i
      have paths := paths_of_rounds (n := i) fun j _ => rounds j
      exact (rounds i).totalLeft_le (paths ▸ distinct)
        (readsBack_of_rounds distinct back fun j _ => rounds j)
    have falling : Antitone fun i => totalLeft (documents i) :=
      antitone_nat_of_succ_le fun i => (step i).1
    -- From a round on that leaves the least, there is nothing to rewrite.
    let last := Function.argmin fun i => totalLeft (documents i)
    have least : ∀ i, totalLeft (documents last) ≤ totalLeft (documents i) :=
      fun i => Function.argmin_le (fun i => totalLeft (documents i)) i
    have nothing : ∀ i ≥ last, rewrites i = [] := by
      intro i late
      by_contra some
      have less := (step i).2 some
      have before := falling late
      have after := least (i + 1)
      dsimp only at before
      omega
    refine ⟨last, fun i late => ⟨nothing i late, ?_⟩⟩
    induction i, late using Nat.le_induction with
    | base => rfl
    | succ i late ih => rw [(rounds i).placed, nothing i late, applied_nil, ih]

end

/-- The language files of two keys over the rounds: in the first one the unused key goes. -/
def twoKeysRound : Nat → List Document
  | 0 => twoKeys.languages
  | _ + 1 => [twoKeysFixed]

/-- What is written in the rounds of two keys. -/
def twoKeysRewrites : Nat → List Document
  | 0 => twoKeysRound 1
  | _ + 1 => []

theorem rounds_settle_twoKeys :
    ((twoKeysRound 0).map (·.path)).Nodup ∧
      (∀ document ∈ twoKeysRound 0, document.ReadsBack) ∧
      (∀ i, Round .default twoKeys.views (twoKeysRound i) (twoKeysRewrites i)
        (twoKeysRound (i + 1))) ∧
      (∀ n, ∀ document ∈ twoKeysRound 0, ∀ value, document.json = .ok value →
        Nat.count (fun i => document.path ∈ (twoKeysRewrites i).map (·.path)) n ≤
          1 + 2 * value.count) ∧
      ∃ last, ∀ i ≥ last, twoKeysRewrites i = [] ∧ twoKeysRound i = twoKeysRound last := by
  have distinct : ((twoKeysRound 0).map (·.path)).Nodup := by decide
  have rounds : ∀ i, Round .default twoKeys.views (twoKeysRound i) (twoKeysRewrites i)
      (twoKeysRound (i + 1)) := by
    rintro (_ | i)
    · exact ⟨⟨_, twoKeys_linted, twoKeys_planned⟩, by decide⟩
    · show Round .default twoKeys.views (twoKeysRound 1) [] (twoKeysRound 1)
      exact ⟨⟨_, twoKeysFixed_linted, by decide +kernel⟩, by decide⟩
  have settled := @rounds_settle .default twoKeys.views twoKeysRound twoKeysRewrites distinct
    twoKeys_readsBack
  exact ⟨distinct, twoKeys_readsBack, rounds, fun n => settled.1 n fun i _ => rounds i,
    settled.2 rounds⟩

end LocaleLint.Fix
