import Mathlib
import LocaleLint.Proofs.Except
import LocaleLint.Proofs.Language.Table
import LocaleLint.Proofs.Sorting

/-!
# Views of a catalog

A catalog tells which keys are declared, by which files and with which values, and which files lack
a key. The declarations are gathered entry by entry; what comes of it are the keys in the order in
which they are first declared, and for each key one declaration of each file that declares it.
-/

namespace LocaleLint.Catalog

variable {catalog : Catalog}

/-- A key is declared before another one: its first declaration comes earlier, going from file to
file and in each file from entry to entry. -/
def DeclaresBefore (catalog : Catalog) (a b : Text) : Prop :=
  (catalog.files.flatMap LanguageFile.keys).idxOf a <
    (catalog.files.flatMap LanguageFile.keys).idxOf b

theorem pairwise_keyNames : catalog.keyNames.Pairwise catalog.DeclaresBefore :=
  pairwise_eraseDups _

theorem nodup_keyNames : catalog.keyNames.Nodup :=
  nodup_eraseDups _

theorem mem_keyNames_iff {key : Text} : key ∈ catalog.keyNames ↔ catalog.declares key = true := by
  simp [keyNames, List.mem_eraseDups, declares, LanguageFile.declares_iff_mem]

/-- The declarations of files with their names, in the order in which they are gathered. -/
def declared (files : List LanguageFile) : List (Text × Declaration) :=
  files.flatMap fun file => file.entries.map fun entry => (entry.key, declarationOf file entry)

theorem declared_cons (file : LanguageFile) (rest : List LanguageFile) :
    declared (file :: rest) =
      (file.entries.map fun entry => (entry.key, declarationOf file entry)) ++ declared rest :=
  List.flatMap_cons

def gathered (pairs : List (Text × Declaration)) (name : Text) : Key :=
  ⟨name, (pairs.filter (·.1 = name)).map Prod.snd, []⟩

theorem gathered_concat (pairs : List (Text × Declaration)) (pair : Text × Declaration)
    (name : Text) : gathered (pairs ++ [pair]) name =
      if pair.1 = name then
        { gathered pairs name with declarations := (gathered pairs name).declarations ++ [pair.2] }
      else gathered pairs name := by
  by_cases same : pair.1 = name <;> simp [gathered, same]

/-- A declaration goes to the key of its name. -/
theorem addDeclaration_gathered {names : List Text} (distinct : names.Nodup)
    (pairs : List (Text × Declaration)) (pair : Text × Declaration) :
    addDeclaration pair.1 pair.2 (names.map (gathered pairs)) =
      names.map (gathered (pairs ++ [pair])) ++
        if pair.1 ∈ names then [] else [⟨pair.1, [pair.2], []⟩] := by
  induction names with
  | nil => rfl
  | cons name rest ih =>
    obtain ⟨fresh, others⟩ := List.nodup_cons.mp distinct
    rw [List.map_cons, List.map_cons, addDeclaration, gathered_concat]
    by_cases same : name = pair.1
    · have unchanged : rest.map (gathered (pairs ++ [pair])) = rest.map (gathered pairs) :=
        List.map_congr_left fun other inside => by
          have differs : pair.1 ≠ other := fun again => fresh (same.trans again ▸ inside)
          rw [gathered_concat, if_neg differs]
      have named : (gathered pairs name).name = pair.1 := same
      rw [if_pos named, if_pos same.symm, if_pos (same ▸ List.mem_cons_self), unchanged,
        List.append_nil]
    · have named : (gathered pairs name).name ≠ pair.1 := same
      have among : pair.1 ∈ name :: rest ↔ pair.1 ∈ rest := by
        simp [Ne.symm same]
      simp only [if_neg named, if_neg (Ne.symm same), ih others, among, List.cons_append]

/-- What is gathered is one key for each name, in the order of the first declarations. -/
theorem foldl_addDeclaration (pairs : List (Text × Declaration)) :
    pairs.foldl (fun keys pair => addDeclaration pair.1 pair.2 keys) [] =
      (pairs.map Prod.fst).eraseDups.map (gathered pairs) := by
  induction pairs using List.reverseRecOn with
  | nil => rfl
  | append_singleton pairs pair ih =>
    rw [List.foldl_append, List.foldl_cons, List.foldl_nil, ih,
      addDeclaration_gathered (nodup_eraseDups _), List.map_append, List.map_singleton,
      eraseDups_append_singleton]
    simp only [List.mem_eraseDups]
    split
    · rw [List.append_nil]
    · next fresh =>
      have none : pairs.filter (·.1 = pair.1) = [] := List.filter_eq_nil_iff.mpr fun p inside => by
        simpa using fun same : p.1 = pair.1 => fresh (List.mem_map.mpr ⟨p, inside, same⟩)
      rw [List.map_append, List.map_singleton, gathered_concat, if_pos rfl, gathered, none]
      rfl

theorem foldl_addFile (files : List LanguageFile) (keys : List Key) :
    files.foldl addFile keys =
      (declared files).foldl (fun keys pair => addDeclaration pair.1 pair.2 keys) keys := by
  induction files generalizing keys with
  | nil => rfl
  | cons file rest ih =>
    rw [List.foldl_cons, ih, declared_cons, List.foldl_append, List.foldl_map]
    rfl

theorem keyNames_eq : catalog.keyNames = ((declared catalog.files).map Prod.fst).eraseDups := by
  rw [keyNames, declared, List.map_flatMap]
  simp only [List.map_map]
  rfl

theorem keys_eq : catalog.keys = catalog.keyNames.map (gathered (declared catalog.files)) := by
  rw [keys, foldl_addFile, foldl_addDeclaration, keyNames_eq]

theorem map_name_keys : catalog.keys.map (·.name) = catalog.keyNames := by
  rw [keys_eq, List.map_map]
  exact List.map_id _

/-- The declarations that have been gathered for a name; there are none if it is not declared. -/
def declarationsOf (catalog : Catalog) (name : Text) : List Declaration :=
  ((catalog.keys.find? (·.name = name)).map (·.declarations)).getD []

def declarationIn? (name : Text) (file : LanguageFile) : Option Declaration :=
  (file.get? name).map (declarationOf file)

theorem declarations_gathered {files : List LanguageFile}
    (distinct : ∀ file ∈ files, file.Distinct) (name : Text) :
    (gathered (declared files) name).declarations = files.filterMap (declarationIn? name) := by
  unfold gathered
  dsimp only
  induction files with
  | nil => rfl
  | cons file rest ih =>
    have here : ((file.entries.map fun entry => (entry.key, declarationOf file entry)).filter
        (·.1 = name)).map Prod.snd = (declarationIn? name file).toList := by
      have one := LanguageFile.filter_entries (distinct file List.mem_cons_self) name
      rw [List.filter_map, List.map_map, declarationIn?, Option.toList_map, ← one]
      rfl
    have others := ih fun file inside => distinct file (List.mem_cons_of_mem _ inside)
    rw [declared_cons, List.filter_append, List.map_append, here, others, List.filterMap_cons]
    cases declarationIn? name file <;> rfl

theorem find?_gathered (pairs : List (Text × Declaration)) (names : List Text) (name : Text) :
    (names.map (gathered pairs)).find? (·.name = name) =
      if name ∈ names then some (gathered pairs name) else none := by
  induction names with
  | nil => rfl
  | cons other rest ih =>
    by_cases same : other = name
    · simp [gathered, same]
    · have named : (gathered pairs other).name ≠ name := same
      rw [List.map_cons, List.find?_cons_of_neg (by simpa using named), ih]
      simp [Ne.symm same]

theorem declarationsOf_eq (distinct : ∀ file ∈ catalog.files, file.Distinct) (name : Text) :
    catalog.declarationsOf name = catalog.files.filterMap (declarationIn? name) := by
  rw [declarationsOf, keys_eq, find?_gathered, ← declarations_gathered distinct]
  split
  · rfl
  · next fresh =>
    have none : (declared catalog.files).filter (·.1 = name) = [] :=
      List.filter_eq_nil_iff.mpr fun pair inside => by
        simp only [decide_eq_true_eq]
        rintro rfl
        rw [keyNames_eq, List.mem_eraseDups] at fresh
        exact fresh (List.mem_map_of_mem inside)
    simp [gathered, none]

/-- What a declaration of a name says about a document and the language file of that. -/
structure IsDeclaration (name : Text) (declaration : Declaration) (document : Document)
    (file : LanguageFile) : Prop where
  path : declaration.path = document.path
  language : declaration.language = document.stem
  entry : ⟨name, declaration.value, declaration.line⟩ ∈ file.entries

/-- A document and its language file. -/
def IsRead (document : Document) (file : LanguageFile) : Prop :=
  LanguageFile.ofDocument document = .ok file

theorem forall₂_of_loaded {documents : List Document}
    (loaded : ofDocuments documents = .ok catalog) :
    List.Forall₂ IsRead documents catalog.files := by
  obtain ⟨files, each, rfl⟩ := map_eq_ok.mp loaded
  exact mapM_eq_ok.mp each

theorem IsRead.spec {document : Document} {file : LanguageFile} (read : IsRead document file) :
    file.path = document.path ∧ file.name = document.stem ∧ file.Distinct := by
  obtain ⟨value, -, rfl⟩ := LanguageFile.ofDocument_eq_ok_iff.mp read
  obtain ⟨path, name, distinct, -⟩ := @LanguageFile.ofLeaves_spec
    (NameLine.lineOf document.content (LineIndex.ofText document.content)) document.path
    document.stem (Leaf.all value)
  exact ⟨path, name, distinct⟩

theorem distinct_of_loaded {documents : List Document}
    (loaded : ofDocuments documents = .ok catalog) : ∀ file ∈ catalog.files, file.Distinct := by
  intro file inside
  obtain ⟨document, -, read⟩ := exists_of_forall₂ (forall₂_of_loaded loaded).flip inside
  exact (IsRead.spec read).2.2

/-- The declarations of a name are those of the files with the name, in order. -/
theorem forall₂_declarations {documents : List Document} {files : List LanguageFile}
    (read : List.Forall₂ IsRead documents files) (name : Text) :
    List.Forall₂ (fun declaration source => IsDeclaration name declaration source.1 source.2)
      (files.filterMap (declarationIn? name))
      ((documents.zip files).filter fun source => name ∈ source.2.keys) := by
  induction read with
  | nil => exact .nil
  | @cons document file documents files first _ ih =>
    obtain ⟨path, stem, -⟩ := first.spec
    rw [List.zip_cons_cons, List.filterMap_cons, declarationIn?]
    cases found : file.get? name with
    | none =>
      have lacking : name ∉ file.keys := by
        rw [← LanguageFile.declares_iff_mem, LanguageFile.declares_eq_isSome, found]
        simp
      simpa [lacking] using ih
    | some entry =>
      obtain ⟨inside, rfl⟩ := LanguageFile.get?_eq_some_iff.mp found
      have declares : entry.key ∈ file.keys := List.mem_map_of_mem inside
      rw [List.filter_cons_of_pos (by simpa using declares)]
      exact .cons ⟨path, stem, inside⟩ ih

theorem map_path_filter {documents : List Document} {files : List LanguageFile}
    (read : List.Forall₂ IsRead documents files) (p : LanguageFile → Bool) :
    (files.filter p).map (·.path) =
      ((documents.zip files).filter fun source => p source.2).map (·.1.path) := by
  induction read with
  | nil => rfl
  | @cons document file documents files first _ ih =>
    have path := first.spec.1
    rw [List.zip_cons_cons, List.filter_cons, List.filter_cons]
    dsimp only
    split
    · rw [List.map_cons, List.map_cons, ih, path]
    · exact ih

/-- All questions to a catalog that has been loaded are answered alike. The gathered keys have the
names of the declared keys, which are distinct and in the order of their first declarations. Of the
files that were loaded, in order, those with a name make its declarations, one for each, and the
others are the files without it. -/
theorem loaded_views_agree {documents : List Document}
    (loaded : ofDocuments documents = .ok catalog) :
    List.Forall₂ IsRead documents catalog.files ∧
      catalog.keys.map (·.name) = catalog.keyNames ∧
      catalog.keyNames.Nodup ∧ catalog.keyNames.Pairwise catalog.DeclaresBefore ∧
      ∀ name, (name ∈ catalog.keyNames ↔ ∃ file ∈ catalog.files, name ∈ file.keys) ∧
        (catalog.declares name = true ↔ name ∈ catalog.keyNames) ∧
        List.Forall₂ (fun declaration source => IsDeclaration name declaration source.1 source.2)
          (catalog.declarationsOf name)
          ((documents.zip catalog.files).filter fun source => name ∈ source.2.keys) ∧
        catalog.filesWithout name =
          ((documents.zip catalog.files).filter fun source => name ∉ source.2.keys).map
            (·.1.path) := by
  have read := forall₂_of_loaded loaded
  refine ⟨read, map_name_keys, nodup_keyNames, pairwise_keyNames, fun name => ⟨?_, ?_, ?_, ?_⟩⟩
  · rw [mem_keyNames_iff, declares, List.any_eq_true]
    simp only [LanguageFile.declares_iff_mem]
  · exact mem_keyNames_iff.symm
  · rw [declarationsOf_eq (distinct_of_loaded loaded)]
    exact forall₂_declarations read name
  · have lacking : ∀ file : LanguageFile, (!file.declares name) = decide (name ∉ file.keys) := by
      intro file
      rw [Bool.eq_iff_iff, decide_eq_true_eq, ← LanguageFile.declares_iff_mem]
      simp
    rw [filesWithout, map_path_filter read]
    simp only [lacking]

/-- Two files that share a key; the second one repeats a name. -/
def sharing : List Document :=
  [⟨"i18n/en.json".toList, "\x7b\"A\": \"a\", \"B\": \x7b\"C\": \"c\"\x7d\x7d".toList⟩,
    ⟨"i18n/de.json".toList, "\x7b\"D\": \"d\",\n\"B.C\": \"x\", \"B\": \x7b\"C\": \"cc\"\x7d\x7d".toList⟩]

/-- The catalog of files that share a key. -/
def sharingCatalog : Catalog :=
  ⟨[.ofEntries "i18n/en.json".toList "en".toList
      [⟨"A".toList, "a".toList, 1⟩, ⟨"B.C".toList, "c".toList, 1⟩],
    .ofEntries "i18n/de.json".toList "de".toList
      [⟨"D".toList, "d".toList, 1⟩, ⟨"B.C".toList, "cc".toList, 2⟩]]⟩

set_option maxRecDepth 100000 in
theorem loaded_views_agree_sharing :
    ofDocuments sharing = .ok sharingCatalog ∧
      sharingCatalog.keyNames = ["A".toList, "B.C".toList, "D".toList] ∧
      sharingCatalog.keys.map (·.name) = sharingCatalog.keyNames ∧
      List.Forall₂ (fun declaration source => IsDeclaration "B.C".toList declaration source.1 source.2)
        (sharingCatalog.declarationsOf "B.C".toList) (sharing.zip sharingCatalog.files) ∧
      sharingCatalog.filesWithout "A".toList = ["i18n/de.json".toList] := by
  have loaded : ofDocuments sharing = .ok sharingCatalog := by decide +kernel
  obtain ⟨-, names, -, -, each⟩ := loaded_views_agree loaded
  obtain ⟨-, -, declarations, -⟩ := each "B.C".toList
  obtain ⟨-, -, -, lacking⟩ := each "A".toList
  have both : (sharing.zip sharingCatalog.files).filter
      (fun source => "B.C".toList ∈ source.2.keys) = sharing.zip sharingCatalog.files := by
    decide +kernel
  exact ⟨loaded, by decide +kernel, names, both ▸ declarations, lacking⟩

end LocaleLint.Catalog
