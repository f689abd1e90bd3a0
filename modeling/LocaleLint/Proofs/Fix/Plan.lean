import Mathlib
import LocaleLint.Lint
import LocaleLint.Proofs.Language.Editing
import LocaleLint.Proofs.Lint
import LocaleLint.Proofs.Sorting

/-!
# What a fix writes

The plan of a fix has one new content for each document that loses keys and is not saved like that
already: the text of its value without the keys that the findings call zombies. The documents come in
the order in which the findings come to them.
-/

namespace LocaleLint

namespace Fix

open Lint (zombiesIn)

theorem map_fst_addKey (path key : Text) (groups : List (Text × List Text)) :
    (addKey path key groups).map Prod.fst =
      if path ∈ groups.map Prod.fst then groups.map Prod.fst
      else groups.map Prod.fst ++ [path] := by
  induction groups with
  | nil => simp [addKey]
  | cons group rest ih =>
    obtain ⟨p, keys⟩ := group
    by_cases same : p = path
    · simp [addKey, same]
    · have other : path ≠ p := Ne.symm same
      simp only [addKey, same, if_false, List.map_cons, ih, List.mem_cons, other, false_or]
      split <;> rfl

theorem lookup_addKey (path key other : Text) (groups : List (Text × List Text)) :
    (addKey path key groups).lookup other =
      if other = path then some ((groups.lookup path).getD [] ++ [key])
      else groups.lookup other := by
  induction groups with
  | nil =>
    by_cases same : other = path
    · simp [addKey, same]
    · simp [addKey, List.lookup_cons, beq_false_of_ne same, same]
  | cons group rest ih =>
    obtain ⟨p, keys⟩ := group
    by_cases first : p = path
    · by_cases same : other = path
      · simp [addKey, first, same]
      · simp [addKey, List.lookup_cons, first, beq_false_of_ne same, same]
    · by_cases same : other = path
      · have later : (path == p) = false := beq_false_of_ne (Ne.symm first)
        rw [if_pos same, same] at ih
        simp [addKey, List.lookup_cons, first, same, later, ih]
      · rw [if_neg same] at ih
        simp [addKey, List.lookup_cons, first, same, ih]

/-- The files of zombies, in the order of the findings. -/
def zombieFiles (findings : List Finding) : List Text :=
  (findings.filter (·.rule = .zombie)).map (·.sourceFile)

/-- Each file with zombies has one group, and the groups are in the order in which the files come
up. -/
theorem paths_keysByFile (findings : List Finding) :
    (keysByFile findings).map Prod.fst = (zombieFiles findings).eraseDups := by
  rw [keysByFile, zombieFiles]
  induction findings.filter (·.rule = .zombie) using List.reverseRecOn with
  | nil => rfl
  | append_singleton zombies zombie ih =>
    rw [List.foldl_append, List.foldl_cons, List.foldl_nil, map_fst_addKey, ih, List.map_append,
      List.map_singleton, eraseDups_append_singleton]
    simp only [List.mem_eraseDups]

/-- The group of a file holds the keys of its zombies. -/
theorem lookup_keysByFile (findings : List Finding) (path : Text) :
    ((keysByFile findings).lookup path).getD [] = zombiesIn findings path ∧
      ((keysByFile findings).lookup path = none ↔ zombiesIn findings path = []) := by
  have keys : zombiesIn findings path =
      ((findings.filter (·.rule = .zombie)).filter (·.sourceFile = path)).map (·.key) := by
    rw [zombiesIn, List.filter_filter]
    simp [Bool.and_comm]
  rw [keys, keysByFile]
  induction findings.filter (·.rule = .zombie) using List.reverseRecOn with
  | nil => simp
  | append_singleton zombies zombie ih =>
    rw [List.foldl_append, List.foldl_cons, List.foldl_nil, lookup_addKey, List.filter_append,
      List.map_append]
    by_cases same : path = zombie.sourceFile
    · subst same
      simp [ih.1]
    · simp [same, Ne.symm same, ih.1, ih.2]

theorem filter_addKey (known : Text → Bool) (path key : Text) (groups : List (Text × List Text)) :
    (addKey path key groups).filter (fun group => known group.1) =
      if known path then addKey path key (groups.filter fun group => known group.1)
      else groups.filter fun group => known group.1 := by
  induction groups with
  | nil => cases here : known path <;> simp [addKey, here]
  | cons group rest ih =>
    obtain ⟨p, keys⟩ := group
    by_cases same : p = path
    · subst same
      cases here : known p <;> simp [addKey, here]
    · rw [addKey, if_neg same, List.filter_cons, List.filter_cons, ih]
      cases known p <;> cases known path <;> simp [addKey, same]

/-- The groups of some files are those of the zombies in them. -/
theorem keysByFile_filter (known : Text → Bool) (findings : List Finding) :
    keysByFile (findings.filter fun f => f.rule = .zombie ∧ known f.sourceFile) =
      (keysByFile findings).filter fun group => known group.1 := by
  have zombies : (findings.filter fun f => f.rule = .zombie ∧ known f.sourceFile).filter
      (·.rule = .zombie) = (findings.filter (·.rule = .zombie)).filter (known ·.sourceFile) := by
    rw [List.filter_filter, List.filter_filter]
    exact List.filter_congr fun f _ => by cases known f.sourceFile <;> simp
  rw [keysByFile, keysByFile, zombies]
  induction findings.filter (·.rule = .zombie) using List.reverseRecOn with
  | nil => rfl
  | append_singleton zombies zombie ih =>
    rw [List.filter_append, List.foldl_append, List.foldl_append, ih, List.foldl_cons,
      List.foldl_nil, filter_addKey]
    cases here : known zombie.sourceFile <;> simp [here]

theorem mem_keysByFile_iff {findings : List Finding} {path : Text} {keys : List Text} :
    (path, keys) ∈ keysByFile findings ↔
      keys = zombiesIn findings path ∧ zombiesIn findings path ≠ [] := by
  obtain ⟨all, none⟩ := lookup_keysByFile findings path
  have distinct : ((keysByFile findings).map Prod.fst).Nodup :=
    paths_keysByFile findings ▸ nodup_eraseDups _
  constructor
  · intro inside
    have found : (keysByFile findings).lookup path = some keys := by
      obtain ⟨before, after, split⟩ := List.append_of_mem inside
      refine List.lookup_eq_some_iff.mpr ⟨before, after, split, fun group earlier => ?_⟩
      rw [split, List.map_append, List.map_cons] at distinct
      have other := (List.nodup_append.mp distinct).2.2 _ (List.mem_map_of_mem earlier) _
        List.mem_cons_self
      simpa using other.symm
    rw [found] at all none
    exact ⟨all, fun empty => nomatch none.mpr empty⟩
  · rintro ⟨rfl, some⟩
    obtain ⟨keys, found⟩ := Option.ne_none_iff_exists'.mp fun missing => some (none.mp missing)
    obtain ⟨before, after, split, _⟩ := List.lookup_eq_some_iff.mp found
    rw [found] at all
    have member : (path, keys) ∈ keysByFile findings := by
      rw [split]
      exact List.mem_append_right _ List.mem_cons_self
    exact all ▸ member

/-- What a document with a value is rewritten to. -/
def rewritten (findings : List Finding) (document : Document) (value : Json) : Document :=
  ⟨document.path, Editor.textOf (Removal.removeKeys (zombiesIn findings document.path) value)⟩

/-- What a document is rewritten to is read as its value without the zombies. -/
theorem json_rewritten_iff {findings : List Finding} {document : Document} {value left : Json}
    (back : document.ReadsBack) (read : document.json = .ok value) :
    (rewritten findings document value).json = .ok left ↔
      left = Removal.removeKeys (zombiesIn findings document.path) value ∧
        (Removal.removeKeys (zombiesIn findings document.path) value).depth ≤ Json.depthLimit :=
  json_textOf_iff (Removal.sound_removeKeys (sound_of_json read).1 _)
    (Removal.readsBack_removeKeys (back value read) _)

theorem cleaned?_eq {document : Document} {value : Json} (read : document.json = .ok value)
    (keys : List Text) :
    cleaned? document keys = .ok
      (if Editor.textOf (Removal.removeKeys keys value) = document.content then none
      else some ⟨document.path, Editor.textOf (Removal.removeKeys keys value)⟩) := by
  by_cases same : Editor.textOf (Removal.removeKeys keys value) = document.content
  · simp [cleaned?, Editor.ofDocument, read, Except.map, Editor.removeKeys, Editor.isModified,
      Editor.content, bind, Except.bind, pure, Except.pure, same]
  · simp [cleaned?, Editor.ofDocument, read, Except.map, Editor.removeKeys, Editor.isModified,
      Editor.content, bind, Except.bind, pure, Except.pure, same]

theorem find?_path {documents : List Document} (distinct : (documents.map (·.path)).Nodup)
    {document : Document} (inside : document ∈ documents) :
    documents.find? (·.path = document.path) = some document := by
  obtain ⟨found, search⟩ := Option.isSome_iff_exists.mp
    (List.find?_isSome.mpr ⟨document, inside, by simp⟩ :
      (documents.find? (·.path = document.path)).isSome)
  have same : found.path = document.path := by simpa using List.find?_some search
  rw [search, List.inj_on_of_nodup_map distinct (List.mem_of_find?_eq_some search) inside same]

/-- What is planned for the keys of a file. -/
private def planFor (documents : List Document) (group : Text × List Text) :
    Except Failure (Option Document) :=
  match documents.find? (·.path = group.1) with
  | none => pure none
  | some document => cleaned? document group.2

/-- What is planned for the keys of a file whose document can be read. -/
def planned? (documents : List Document) (group : Text × List Text) : Option Document :=
  (documents.find? (·.path = group.1)).bind fun document =>
    document.json.toOption.bind fun value =>
      let content := Editor.textOf (Removal.removeKeys group.2 value)
      if content = document.content then none else some ⟨document.path, content⟩

/-- If all documents can be read, nothing is left that can fail. -/
theorem plan_eq {documents : List Document}
    (readable : ∀ document ∈ documents, ∃ value, document.json = .ok value)
    (findings : List Finding) :
    plan findings documents = .ok ((keysByFile findings).filterMap (planned? documents)) := by
  have each : ∀ group ∈ keysByFile findings,
      planFor documents group = .ok (planned? documents group) := by
    intro group _
    unfold planFor planned?
    cases search : documents.find? (·.path = group.1) with
    | none => rfl
    | some document =>
      obtain ⟨value, read⟩ := readable document (List.mem_of_find?_eq_some search)
      rw [Option.bind_some, read]
      exact cleaned?_eq read group.2
  have run : (keysByFile findings).mapM (planFor documents) =
      .ok ((keysByFile findings).map (planned? documents)) :=
    mapM_eq_ok.mpr (List.forall₂_map_right_iff.mpr (List.forall₂_same.mpr each))
  refine bind_eq_ok.mpr ⟨_, run, ?_⟩
  rw [List.filterMap_map]
  rfl

theorem exists_of_planned? {documents : List Document} {group : Text × List Text}
    {rewrite : Document} (made : planned? documents group = some rewrite) :
    ∃ document ∈ documents, ∃ value, document.json = .ok value ∧ document.path = group.1 ∧
      rewrite = ⟨document.path, Editor.textOf (Removal.removeKeys group.2 value)⟩ ∧
      rewrite.content ≠ document.content := by
  obtain ⟨document, search, made⟩ := Option.bind_eq_some_iff.mp made
  obtain ⟨value, read, made⟩ := Option.bind_eq_some_iff.mp made
  have path : document.path = group.1 := by simpa using List.find?_some search
  dsimp only at made
  split at made
  · cases made
  · next modified =>
    cases made
    exact ⟨document, List.mem_of_find?_eq_some search, value, eq_ok_of_toOption read, path, rfl,
      modified⟩

theorem planned?_eq_some {documents : List Document}
    (distinct : (documents.map (·.path)).Nodup) {document : Document} (inside : document ∈ documents)
    {value : Json} (read : document.json = .ok value) {keys : List Text}
    (modified : Editor.textOf (Removal.removeKeys keys value) ≠ document.content) :
    planned? documents (document.path, keys) =
      some ⟨document.path, Editor.textOf (Removal.removeKeys keys value)⟩ := by
  rw [planned?, find?_path distinct inside, Option.bind_some, read]
  exact if_neg modified

/-- The plan of a fix succeeds, and holds the documents that lose keys and are not saved like that
already. -/
theorem plan_spec {findings : List Finding} {documents : List Document}
    (distinct : (documents.map (·.path)).Nodup)
    (readable : ∀ document ∈ documents, ∃ value, document.json = .ok value) :
    ∃ rewrites, plan findings documents = .ok rewrites ∧
      ∀ rewrite, rewrite ∈ rewrites ↔ ∃ document ∈ documents, ∃ value,
        document.json = .ok value ∧ zombiesIn findings document.path ≠ [] ∧
        rewrite = rewritten findings document value ∧ rewrite.content ≠ document.content := by
  refine ⟨_, plan_eq readable findings, fun rewrite => ?_⟩
  rw [List.mem_filterMap]
  constructor
  · rintro ⟨⟨path, keys⟩, listed, made⟩
    obtain ⟨document, inside, value, read, rfl, rfl, modified⟩ := exists_of_planned? made
    obtain ⟨rfl, some⟩ := mem_keysByFile_iff.mp listed
    exact ⟨document, inside, value, read, some, rfl, modified⟩
  · rintro ⟨document, inside, value, read, zombies, rfl, modified⟩
    exact ⟨_, mem_keysByFile_iff.mpr ⟨rfl, zombies⟩, planned?_eq_some distinct inside read modified⟩

/-- Rewrites are in the order of the groups that they are made of. -/
theorem paths_sublist (documents : List Document) (groups : List (Text × List Text)) :
    ((groups.filterMap (planned? documents)).map (·.path)).Sublist (groups.map Prod.fst) := by
  induction groups with
  | nil => exact List.nil_sublist _
  | cons group rest ih =>
    cases made : planned? documents group with
    | none =>
      rw [List.filterMap_cons_none made]
      exact ih.cons _
    | some rewrite =>
      obtain ⟨document, -, value, -, same, rfl, -⟩ := exists_of_planned? made
      rw [List.filterMap_cons_some made, List.map_cons, List.map_cons, ← same]
      exact ih.cons_cons _

/-- The zombies that findings name in one of the documents. -/
def zombiesOf (documents : List Document) (findings : List Finding) : List Finding :=
  findings.filter fun f => f.rule = .zombie ∧ documents.any (·.path = f.sourceFile)

/-- Zombies of files that are not at hand and findings of other rules make no difference. -/
theorem plan_zombiesOf {documents : List Document}
    (readable : ∀ document ∈ documents, ∃ value, document.json = .ok value)
    (findings : List Finding) :
    plan (zombiesOf documents findings) documents = plan findings documents := by
  have known := keysByFile_filter (fun path => documents.any (·.path = path)) findings
  rw [plan_eq readable, plan_eq readable, zombiesOf, known, List.filterMap_filter]
  refine congrArg Except.ok (List.filterMap_congr fun group _ => ?_)
  split
  · rfl
  · next unknown =>
    have missing : documents.find? (·.path = group.1) = none :=
      List.find?_eq_none.mpr fun document inside same =>
        unknown (List.any_eq_true.mpr ⟨document, inside, same⟩)
    rw [planned?, missing]
    rfl

/-- Nothing is rewritten exactly if each document with zombies is saved without them already. -/
theorem plan_eq_nil_iff {findings : List Finding} {documents : List Document}
    (distinct : (documents.map (·.path)).Nodup)
    (readable : ∀ document ∈ documents, ∃ value, document.json = .ok value) :
    plan findings documents = .ok [] ↔ ∀ document ∈ documents, ∀ value,
      document.json = .ok value → zombiesIn findings document.path = [] ∨
        (rewritten findings document value).content = document.content := by
  obtain ⟨rewrites, planned, content⟩ := @plan_spec findings _ distinct readable
  have empty : plan findings documents = .ok [] ↔ rewrites = [] := by
    rw [planned, Except.ok.injEq]
  rw [empty, List.eq_nil_iff_forall_not_mem]
  constructor
  · intro none document inside value read
    by_contra! changed
    exact none _ ((content _).mpr ⟨document, inside, value, read, changed.1, rfl, changed.2⟩)
  · intro saved rewrite listed
    obtain ⟨document, inside, value, read, some, rfl, modified⟩ := (content rewrite).mp listed
    exact (saved document inside value read).elim some modified

/-- Documents with their new contents in place. -/
def applied (rewrites documents : List Document) : List Document :=
  documents.map fun document => (rewrites.find? (·.path = document.path)).getD document

theorem paths_applied (rewrites documents : List Document) :
    (applied rewrites documents).map (·.path) = documents.map (·.path) := by
  rw [applied, List.map_map]
  refine List.map_congr_left fun document _ => ?_
  dsimp only [Function.comp_apply]
  cases search : rewrites.find? (·.path = document.path) with
  | none => rfl
  | some rewrite => simpa using List.find?_some search

/-- A document with zombies is in the end the text of its value without them, and all others are
as they were. -/
theorem plan_applied {findings : List Finding} {documents rewrites : List Document}
    (distinct : (documents.map (·.path)).Nodup)
    (readable : ∀ document ∈ documents, ∃ value, document.json = .ok value)
    (planned : plan findings documents = .ok rewrites) {document : Document}
    (inside : document ∈ documents) {value : Json} (read : document.json = .ok value) :
    (rewrites.find? (·.path = document.path)).getD document =
      if zombiesIn findings document.path = [] then document
      else rewritten findings document value := by
  obtain ⟨_, again, content⟩ := plan_spec distinct readable
  cases planned.symm.trans again
  have origin : ∀ rewrite ∈ rewrites, rewrite.path = document.path →
      zombiesIn findings document.path ≠ [] ∧ rewrite = rewritten findings document value := by
    intro rewrite listed path
    obtain ⟨other, found, value', read', some, rfl, _⟩ := (content rewrite).mp listed
    cases List.inj_on_of_nodup_map distinct found inside path
    cases read.symm.trans read'
    exact ⟨some, rfl⟩
  cases search : rewrites.find? (·.path = document.path) with
  | some rewrite =>
    obtain ⟨some, rfl⟩ := origin rewrite (List.mem_of_find?_eq_some search)
      (by simpa using List.find?_some search)
    rw [if_neg some]
    rfl
  | none =>
    split
    · rfl
    · rename_i some
      have absent : rewritten findings document value ∉ rewrites := fun listed => by
        simpa [rewritten] using List.find?_eq_none.mp search _ listed
      have unchanged : (rewritten findings document value).content = document.content := by
        by_contra modified
        exact absent ((content _).mpr ⟨document, inside, value, read, some, rfl, modified⟩)
      rw [Option.getD_none]
      exact congrArg (Document.mk document.path) unchanged.symm

/-- The plan of a fix has one rewrite at most for a document, in the order in which the findings
come to their files: the text of its value without all keys that they call zombies, if that is not
its text already. Other findings make no difference. -/
theorem plan_exact {documents : List Document} (distinct : (documents.map (·.path)).Nodup)
    (readable : ∀ document ∈ documents, ∃ value, document.json = .ok value)
    (findings : List Finding) :
    ∃ rewrites, plan findings documents = .ok rewrites ∧
      (rewrites.map (·.path)).Nodup ∧
      ((rewrites.map (·.path)).Pairwise fun path other =>
        (zombieFiles findings).idxOf path < (zombieFiles findings).idxOf other) ∧
      (∀ path content, ⟨path, content⟩ ∈ rewrites ↔
        ∃ document ∈ documents, document.path = path ∧ zombiesIn findings path ≠ [] ∧
          ∃ value, document.json = .ok value ∧
            content = Editor.textOf (Removal.removeKeys (zombiesIn findings path) value) ∧
            content ≠ document.content) ∧
      ∀ others, zombiesOf documents others = zombiesOf documents findings →
        plan others documents = .ok rewrites := by
  obtain ⟨rewrites, planned, content⟩ := @plan_spec findings _ distinct readable
  have made : rewrites = (keysByFile findings).filterMap (planned? documents) :=
    Except.ok.inj (planned.symm.trans (plan_eq readable findings))
  have order : (rewrites.map (·.path)).Sublist (zombieFiles findings).eraseDups := by
    rw [made, ← paths_keysByFile]
    exact paths_sublist documents _
  refine ⟨rewrites, planned, order.nodup (nodup_eraseDups _),
    (pairwise_eraseDups _).sublist order, fun path text => ?_, fun others same => ?_⟩
  · rw [content]
    constructor
    · rintro ⟨document, inside, value, read, some, same, modified⟩
      cases same
      exact ⟨document, inside, rfl, some, value, read, rfl, modified⟩
    · rintro ⟨document, inside, rfl, some, value, read, rfl, modified⟩
      exact ⟨document, inside, value, read, some, rfl, modified⟩
  · rw [← plan_zombiesOf readable, same, plan_zombiesOf readable, planned]

def sharedKeys : List Document :=
  [⟨"en.json".toList, "\x7b\"A\":\"a\",\"B\":\x7b\"C\":\"c\"\x7d,\"D\":\"d\"\x7d".toList⟩,
    ⟨"de.json".toList, "\x7b\"A\":\"a\"\x7d".toList⟩]

/-- A finding of a rule about a key of a file. -/
def reported (rule : Rule) (key file : String) : Finding :=
  ⟨key.toList, rule, .warning, file.toList, [], [], none, none⟩

/-- Zombies of two documents and of a file that is not at hand, and an empty key. -/
def mixedFindings : List Finding :=
  [reported .zombie "A" "de.json", reported .zombie "B.C" "en.json", reported .empty "D" "en.json",
    reported .zombie "A" "fr.json", reported .zombie "A" "en.json"]

theorem plan_exact_mixedFindings :
    (sharedKeys.map (·.path)).Nodup ∧
      (∀ document ∈ sharedKeys, ∃ value, document.json = .ok value) ∧
      ∃ rewrites, plan mixedFindings sharedKeys = .ok rewrites ∧
        plan (mixedFindings.filter (·.rule = .zombie)) sharedKeys = .ok rewrites ∧
        ((rewrites.map (·.path)).Pairwise fun path other =>
          (zombieFiles mixedFindings).idxOf path < (zombieFiles mixedFindings).idxOf other) ∧
        ⟨"de.json".toList, "\x7b\x7d\n".toList⟩ ∈ rewrites ∧
        ⟨"en.json".toList, "\x7b\n    \"D\": \"d\"\n\x7d\n".toList⟩ ∈ rewrites := by
  have distinct : (sharedKeys.map (·.path)).Nodup := by decide
  have english : (sharedKeys[0]).json = .ok (.object [("A".toList, .string "a".toList),
      ("B".toList, .object [("C".toList, .string "c".toList)]), ("D".toList, .string "d".toList)]) :=
    rfl
  have german : (sharedKeys[1]).json = .ok (.object [("A".toList, .string "a".toList)]) := rfl
  have readable : ∀ document ∈ sharedKeys, ∃ value, document.json = .ok value := by
    rintro document inside
    rcases List.mem_pair.mp inside with rfl | rfl
    · exact ⟨_, english⟩
    · exact ⟨_, german⟩
  have greatestFirst : Removal.removalOrder ["B.C".toList, "A".toList] =
      [["B".toList, "C".toList], ["A".toList]] := by
    rw [Removal.removalOrder, List.mergeSort_of_pairwise (by decide)]
    rfl
  have single : Removal.removalOrder ["A".toList] = [["A".toList]] := by
    rw [Removal.removalOrder, List.mergeSort_of_pairwise (by decide)]
    rfl
  obtain ⟨rewrites, planned, -, ordered, exact, others⟩ := plan_exact distinct readable mixedFindings
  refine ⟨distinct, readable, rewrites, planned, others _ (by decide), ordered,
    (exact _ _).mpr ⟨_, List.mem_cons_of_mem _ List.mem_cons_self, rfl, by decide, _, german, ?_,
      by decide⟩,
    (exact _ _).mpr ⟨_, List.mem_cons_self, rfl, by decide, _, english, ?_, by decide⟩⟩
  · have zombies : zombiesIn mixedFindings "de.json".toList = ["A".toList] := by decide
    rw [zombies, Removal.removeKeys, single]
    decide
  · have zombies : zombiesIn mixedFindings "en.json".toList = ["B.C".toList, "A".toList] := by decide
    rw [zombies, Removal.removeKeys, greatestFirst]
    decide

end Fix

end LocaleLint
