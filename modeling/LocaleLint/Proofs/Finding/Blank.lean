import Mathlib
import LocaleLint.Finding.Check
import LocaleLint.Proofs.Language.Catalog
import LocaleLint.Proofs.Language.Flattening
import LocaleLint.Proofs.Text.Numeral

/-!
# Blank values

The check for empty values looks at texts, but says something about JSON. The text of a leaf is
blank if the leaf is null, a blank string or a list of one blank string, and in no other case: a
list of more strings has a comma in it, and a number or a truth value has signs of its own. Of
several leaves with one key the last one decides.
-/

namespace LocaleLint

open Json (Step)

namespace Text

theorem isBlank_eq_false {s : Text} {c : Char} (inside : c ∈ s) (visible : isWhite c = false) :
    isBlank s = false :=
  List.all_eq_false.mpr ⟨c, inside, by simp [visible]⟩

theorem isWhite_eq_false_of_digit {c : Char} (digit : (digitValue? c).isSome) :
    isWhite c = false := by
  obtain ⟨lower, upper⟩ := toNat_of_digit digit
  simp only [isWhite, Bool.or_eq_false_iff, Bool.and_eq_false_iff, decide_eq_false_iff_not,
    beq_eq_false_iff_ne]
  omega

theorem isBlank_ofNat (n : Nat) : isBlank (ofNat n) = false := by
  obtain ⟨c, rest, spelled⟩ := List.exists_cons_of_ne_nil (ofNat_ne_nil n)
  have inside : c ∈ ofNat n := spelled ▸ List.mem_cons_self
  exact isBlank_eq_false inside (isWhite_eq_false_of_digit (isDigits_ofNat n c inside))

theorem isBlank_append (s t : Text) : isBlank (s ++ t) = (isBlank s && isBlank t) :=
  List.all_append

end Text

namespace Json

/-- A number that is not whole is written with a point or an exponent. -/
theorem Number.isBlank_text (n : Number) : Text.isBlank n.text = false := by
  cases n with
  | integer n => rw [text, Text.isBlank_append, Text.isBlank_ofNat, Bool.and_false]
  | double x =>
    cases x with
    | nan => rfl
    | infinite negative => rfl
    | finite negative mantissa exponent =>
      rw [text, Double.scientificText?, Option.getD_some, Text.isBlank_append,
        Bool.and_eq_false_iff]
      right
      split
      · exact Text.isBlank_eq_false (c := '.') (by simp) rfl
      · exact Text.isBlank_eq_false (c := 'e') (by simp) rfl

mutual

/-- The leaves of a value in the order of the text, each with the path to it: what is no container,
and lists of strings as a whole. An empty container has none. -/
def leafValues : Json → List (List Step × Json)
  | array items =>
    if items = [] then []
    else if items.all isString then [([], array items)]
    else leafValuesOfItems 0 items
  | object members => leafValuesOfMembers members
  | scalar => [([], scalar)]

/-- The leaves of the members of an object. -/
def leafValuesOfMembers : List (Text × Json) → List (List Step × Json)
  | [] => []
  | (name, value) :: rest =>
    (leafValues value).map (fun (path, leaf) => (.name name :: path, leaf)) ++
      leafValuesOfMembers rest

/-- The leaves of the items of an array, from an index on. -/
def leafValuesOfItems (index : Nat) : List Json → List (List Step × Json)
  | [] => []
  | item :: rest =>
    (leafValues item).map (fun (path, leaf) => (.index index :: path, leaf)) ++
      leafValuesOfItems (index + 1) rest

end

/-- Whether a value is a leaf by itself. -/
def isLeaf : Json → Bool
  | array items => !items.isEmpty && items.all isString
  | object _ => false
  | _ => true

/-- The text that a leaf is as a value of a key. -/
def leafText : Json → Text
  | null => []
  | string s => s
  | array items => Text.joinWith ", ".toList (items.filterMap string?)
  | scalar => compact scalar

/-- Whether a leaf says nothing: it is null, a string of white space only, or a list of exactly one
such string. -/
def isBlankLeaf : Json → Bool
  | null => true
  | string s => Text.isBlank s
  | array [string s] => Text.isBlank s
  | _ => false

/-- The last leaf of a value that flattens to a key. -/
def lastLeaf? (key : Text) (value : Json) : Option Json :=
  ((value.leafValues.filter fun leaf => Leaf.keyOf? leaf.1 = some key).getLast?).map (·.2)

mutual

theorem isLeaf_of_mem_leafValues : ∀ (value : Json) {path : List Step} {leaf : Json},
    (path, leaf) ∈ value.leafValues → leaf.isLeaf = true
  | .object members, _, _, inside => isLeaf_of_mem_ofMembers members inside
  | .array items, path, leaf, inside => by
    rw [leafValues] at inside
    split_ifs at inside with none strings
    · cases inside
    · obtain ⟨-, rfl⟩ := Prod.mk.inj (List.mem_singleton.mp inside)
      simp [isLeaf, none, strings]
    · exact isLeaf_of_mem_ofItems 0 items inside
  | .null, _, _, .head _ | .bool _, _, _, .head _ | .number _, _, _, .head _
  | .string _, _, _, .head _ => rfl

private theorem isLeaf_of_mem_ofMembers : ∀ (members : List (Text × Json)) {path : List Step}
    {leaf : Json}, (path, leaf) ∈ leafValuesOfMembers members → leaf.isLeaf = true
  | (name, value) :: rest, path, leaf, inside => by
    rw [leafValuesOfMembers, List.mem_append, List.mem_map] at inside
    rcases inside with ⟨⟨way, _⟩, here, same⟩ | behind
    · cases same
      exact isLeaf_of_mem_leafValues value here
    · exact isLeaf_of_mem_ofMembers rest behind

private theorem isLeaf_of_mem_ofItems : ∀ (index : Nat) (items : List Json) {path : List Step}
    {leaf : Json}, (path, leaf) ∈ leafValuesOfItems index items → leaf.isLeaf = true
  | index, item :: rest, path, leaf, inside => by
    rw [leafValuesOfItems, List.mem_append, List.mem_map] at inside
    rcases inside with ⟨⟨way, _⟩, here, same⟩ | behind
    · cases same
      exact isLeaf_of_mem_leafValues item here
    · exact isLeaf_of_mem_ofItems (index + 1) rest behind

end

theorem isLeaf_of_lastLeaf? {key : Text} {value leaf : Json}
    (last : value.lastLeaf? key = some leaf) : leaf.isLeaf = true := by
  obtain ⟨⟨path, _⟩, found, rfl⟩ := Option.map_eq_some_iff.mp last
  exact isLeaf_of_mem_leafValues value (List.mem_filter.mp (List.mem_of_getLast? found)).1

mutual

/-- The texts of the flattened table are those of the leaves. -/
theorem leaves_eq_map_leafValues : ∀ value : Json,
    value.leaves = value.leafValues.map fun (path, leaf) => (path, leaf.leafText)
  | .object members => leavesOfMembers_eq_map members
  | .array items => by
    rw [leaves, leafValues]
    split_ifs with none strings
    · rfl
    · rfl
    · exact leavesOfItems_eq_map 0 items
  | .null | .bool _ | .number _ | .string _ => rfl

private theorem leavesOfMembers_eq_map : ∀ members : List (Text × Json),
    leavesOfMembers members =
      (leafValuesOfMembers members).map fun (path, leaf) => (path, leaf.leafText)
  | [] => rfl
  | (name, value) :: rest => by
    rw [leavesOfMembers, leafValuesOfMembers, List.map_append, leaves_eq_map_leafValues value,
      leavesOfMembers_eq_map rest, List.map_map, List.map_map]
    rfl

private theorem leavesOfItems_eq_map : ∀ (index : Nat) (items : List Json),
    leavesOfItems index items =
      (leafValuesOfItems index items).map fun (path, leaf) => (path, leaf.leafText)
  | _, [] => rfl
  | index, item :: rest => by
    rw [leavesOfItems, leafValuesOfItems, List.map_append, leaves_eq_map_leafValues item,
      leavesOfItems_eq_map (index + 1) rest, List.map_map, List.map_map]
    rfl

end

/-- The text of a leaf is blank only if the leaf says nothing. -/
theorem isBlank_leafText {leaf : Json} (isLeaf : leaf.isLeaf = true) :
    Text.isBlank leaf.leafText = leaf.isBlankLeaf := by
  cases leaf with
  | null => rfl
  | bool value => cases value <;> rfl
  | number n => exact n.isBlank_text
  | string s => rfl
  | object members => cases isLeaf
  | array items =>
    match items with
    | [] => cases isLeaf
    | [.string s] => rfl
    | .string first :: .string second :: rest =>
      -- the strings of a longer list have a comma between them
      have comma : ',' ∈ (array (.string first :: .string second :: rest)).leafText := by
        simp [leafText, string?, Text.joinWith_cons_cons]
      exact Text.isBlank_eq_false comma rfl

end Json

/-- Whether the last leaf of a document that flattens to a key says nothing. -/
def Document.declaresBlank (document : Document) (key : Text) : Bool :=
  match Json.ofText document.content with
  | .ok value => (value.lastLeaf? key).any Json.isBlankLeaf
  | .error _ => false

namespace Leaf

/-- The value of a key in the flattened table is the text of the last leaf that flattens to it. -/
theorem valueIn?_listed (key : Text) (value : Json) :
    valueIn? key (listed value) = (value.lastLeaf? key).map Json.leafText := by
  rw [listed, Json.leaves_eq_map_leafValues, Json.lastLeaf?]
  induction value.leafValues using List.reverseRecOn with
  | nil => rfl
  | append_singleton leaves leaf ih =>
    obtain ⟨path, leaf⟩ := leaf
    rw [List.map_append, List.filterMap_append, List.filter_append]
    cases spelled : keyOf? path with
    | none => simpa [at?, spelled] using ih
    | some other =>
      by_cases same : other = key
      · simp [at?, spelled, same, valueIn?_append_singleton]
      · simpa [at?, spelled, same, valueIn?_append_singleton] using ih

end Leaf

namespace Catalog

variable {document : Document} {file : LanguageFile}

/-- The value of a key in a file is blank if the last leaf that flattens to the key says nothing. -/
theorem IsRead.declaresBlank_eq (read : IsRead document file) (key : Text) :
    document.declaresBlank key = (file.get? key).any fun entry => Text.isBlank entry.value := by
  obtain ⟨value, parsed, rfl⟩ := LanguageFile.ofDocument_eq_ok_iff.mp read
  obtain ⟨-, -, -, -, values⟩ := @LanguageFile.ofLeaves_spec
    (NameLine.lineOf document.content (LineIndex.ofText document.content)) document.path
    document.stem (Leaf.all value)
  have content : Json.ofText document.content = .ok value := mapError_eq_ok.mp parsed
  -- the value in the file is the text of the last leaf, and texts are blank for the same leaves
  have declared := values key
  rw [Leaf.all_eq_listed, Leaf.valueIn?_listed] at declared
  rw [Document.declaresBlank, content, Leaf.all_eq_listed]
  dsimp only
  cases last : value.lastLeaf? key with
  | none =>
    rw [last, Option.map_none, Option.map_eq_none_iff] at declared
    rw [declared]
    rfl
  | some leaf =>
    rw [last, Option.map_some] at declared
    obtain ⟨entry, found, spelled⟩ := Option.map_eq_some_iff.mp declared
    rw [found, Option.any_some, Option.any_some, spelled, Json.isBlank_leafText]
    exact Json.isLeaf_of_lastLeaf? last

theorem IsRead.isBlank_entry (read : IsRead document file) {entry : LanguageEntry}
    (inside : entry ∈ file.entries) :
    Text.isBlank entry.value = document.declaresBlank entry.key := by
  rw [read.declaresBlank_eq, LanguageFile.get?_eq_some_iff.mpr ⟨inside, rfl⟩, Option.any_some]

theorem IsRead.mem_keys_of_declaresBlank (read : IsRead document file) {key : Text}
    (blank : document.declaresBlank key = true) : key ∈ file.keys := by
  rw [read.declaresBlank_eq] at blank
  rw [← LanguageFile.declares_iff_mem, LanguageFile.declares_eq_isSome]
  cases found : file.get? key with
  | none => simp [found] at blank
  | some entry => rfl

end Catalog

namespace Check

/-- What each file contributes to the entries with blank values is what its document says. -/
theorem entriesWith_blank (severity : Severity) {documents : List Document}
    {files : List LanguageFile} (read : List.Forall₂ Catalog.IsRead documents files) :
    entriesWith .empty severity (fun entry => Text.isBlank entry.value) files =
      (documents.zip files).flatMap fun (document, file) =>
        (file.entries.filter fun entry => document.declaresBlank entry.key).map
          (onEntry .empty severity file) := by
  induction read with
  | nil => rfl
  | @cons document file documents files first _ ih =>
    rw [List.zip_cons_cons, List.flatMap_cons, ← ih]
    have same : file.entries.filter (fun entry => Text.isBlank entry.value) =
        file.entries.filter fun entry => document.declaresBlank entry.key :=
      List.filter_congr fun entry inside => first.isBlank_entry inside
    dsimp only
    rw [← same]
    rfl

/-- The check for empty values says of each file exactly which keys have a last leaf that is null, a
string of white space or a list of one such string, in the order of files and entries. Whatever the
views and the earlier findings are, each of these keys is found once, and no other key is. -/
theorem run_empty_exact {documents : List Document} {catalog : Catalog}
    (loaded : Catalog.ofDocuments documents = .ok catalog) (severity : Severity) (views : List View)
    (used : List Text) (earlier : List Finding) :
    (Check.empty severity).run catalog views used earlier =
        ((documents.zip catalog.files).flatMap fun (document, file) =>
          (file.entries.filter fun entry => document.declaresBlank entry.key).map
            (onEntry .empty severity file)) ∧
      List.Forall₂ (fun document file => Catalog.IsRead document file ∧ file.path = document.path ∧
        file.keys.Nodup ∧ ∀ key, document.declaresBlank key = true → key ∈ file.keys)
        documents catalog.files := by
  have read := Catalog.forall₂_of_loaded loaded
  refine ⟨entriesWith_blank severity read, read.imp fun document file made => ?_⟩
  exact ⟨made, made.spec.1, file.distinct, fun key => made.mem_keys_of_declaresBlank⟩

/-- Two files with leaves of all kinds, some of them for keys that are declared twice. -/
def gappy : List Document :=
  [⟨"en.json".toList, ("\x7b\"A\": null, \"B\": \" \\u00a0\", \"C\": [\"\\t\"], " ++
      "\"D\": [\"\", \"\"], \"E\": 0, \"F\": [null, []], \"G\": [], " ++
      "\"H\": \x7b\"I\": \"\"\x7d, \"H.I\": \"i\"\x7d").toList⟩,
    ⟨"de.json".toList, ("\x7b\"A\": \"a\", \"\": \x7b\"H\": \x7b\"I\": false\x7d\x7d, " ++
      "\"H\": \x7b\"I\": \"\"\x7d\x7d").toList⟩]

/-- The catalog of files with leaves of all kinds. -/
def gappyCatalog : Catalog :=
  ⟨[.ofEntries "en.json".toList "en".toList
      [⟨"A".toList, [], 1⟩, ⟨"B".toList, [' ', '\u00a0'], 1⟩, ⟨"C".toList, ['\t'], 1⟩,
        ⟨"D".toList, ", ".toList, 1⟩, ⟨"E".toList, "0".toList, 1⟩, ⟨"F.0".toList, [], 1⟩,
        ⟨"H.I".toList, "i".toList, 1⟩],
    .ofEntries "de.json".toList "de".toList
      [⟨"A".toList, "a".toList, 1⟩, ⟨"H.I".toList, [], 1⟩]]⟩

set_option maxRecDepth 100000 in
theorem run_empty_exact_gappy :
    Catalog.ofDocuments gappy = .ok gappyCatalog ∧
      ((Check.empty .warning).run gappyCatalog [] [] []).map (fun f => (f.sourceFile, f.key)) =
        [("en.json".toList, "A".toList), ("en.json".toList, "B".toList),
          ("en.json".toList, "C".toList), ("en.json".toList, "F.0".toList),
          ("de.json".toList, "H.I".toList)] := by
  have loaded : Catalog.ofDocuments gappy = .ok gappyCatalog := by decide +kernel
  refine ⟨loaded, ?_⟩
  rw [(run_empty_exact loaded .warning [] [] []).1]
  decide +kernel

end Check

end LocaleLint
