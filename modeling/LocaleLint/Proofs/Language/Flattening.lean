import Mathlib
import LocaleLint.Json.Printer
import LocaleLint.Proofs.Json.Path
import LocaleLint.Proofs.Language.Table
import LocaleLint.Proofs.Sorting
import LocaleLint.Proofs.Text.Splitting

/-!
# The flattened table

The entries of a language file are those of the leaves of its JSON value, each leaf with the path
that leads to it. The key of a leaf joins the steps of the path; empty names at its start do not
count, and a leaf that is left without a name, or in an array without a name, has no key. Of leaves
with the same key the first gives the place and the last the value.
-/

namespace LocaleLint

open Json (Step)

namespace Json

mutual

/-- The leaves of a value in the order of the text, each with the path to it and its text. A list of
strings is one leaf, and an empty container has none. -/
def leaves : Json → List (List Step × Text)
  | null => [([], [])]
  | string s => [([], s)]
  | array items =>
    if items = [] then []
    else if items.all isString then [([], Text.joinWith ", ".toList (items.filterMap string?))]
    else leavesOfItems 0 items
  | object members => leavesOfMembers members
  | scalar => [([], compact scalar)]

def leavesOfMembers : List (Text × Json) → List (List Step × Text)
  | [] => []
  | (name, value) :: rest =>
    (leaves value).map (fun (path, text) => (.name name :: path, text)) ++ leavesOfMembers rest

def leavesOfItems (index : Nat) : List Json → List (List Step × Text)
  | [] => []
  | item :: rest =>
    (leaves item).map (fun (path, text) => (.index index :: path, text)) ++
      leavesOfItems (index + 1) rest

end

end Json

namespace Leaf

def keyOf? (path : List Step) : Option Text :=
  match path.dropWhile (· = .name []) with
  | [] => none
  | .index _ :: _ => none
  | .name name :: rest => some (Text.joinWith ['.'] (name :: rest.map Step.text))

/-- The leaf that stands at the end of a path, if the path has a key. -/
def at? : List Step × Text → Option Leaf
  | (path, text) => (keyOf? path).map fun key => ⟨key, text⟩

/-- The leaves that have keys, in order. -/
def listed (value : Json) : List Leaf := value.leaves.filterMap at?

/-- Each key of leaves once, in the place of the first leaf and with the value of the last one. -/
def table (leaves : List Leaf) : List Leaf :=
  (leaves.map (·.key)).eraseDups.filterMap fun key =>
    (valueIn? key leaves).map fun value => ⟨key, value⟩

theorem keyOf?_empty_name (path : List Step) : keyOf? (.name [] :: path) = keyOf? path := by
  simp [keyOf?]

theorem keyOf?_name {name : Text} (filled : name ≠ []) (path : List Step) :
    keyOf? (.name name :: path) = some (Text.joinWith ['.'] (name :: path.map Step.text)) := by
  simp [keyOf?, filled]

theorem keyOf?_index (index : Nat) (path : List Step) : keyOf? (.index index :: path) = none := by
  simp [keyOf?]

theorem keyOf?_ne_nil (path : List Step) : keyOf? path ≠ some [] := by
  induction path with
  | nil => exact nofun
  | cons step rest ih =>
    cases step with
    | index i =>
      rw [keyOf?_index]
      exact nofun
    | name name =>
      by_cases filled : name = []
      · rwa [filled, keyOf?_empty_name]
      · rw [keyOf?_name filled]
        exact fun same => Text.joinWith_cons_ne_nil _ filled _ (Option.some.inj same)

/-- A key that goes on behind a name goes on behind what is above the name. -/
theorem joinWith_join {above : Text} (filled : above ≠ []) (name : Text) (rest : List Text) :
    Text.joinWith ['.'] (join above name :: rest) =
      Text.joinWith ['.'] (above :: name :: rest) := by
  rw [join, if_neg (by simpa using filled), Text.joinWith_cons_cons]
  cases rest with
  | nil => simp [Text.joinWith]
  | cons next others => simp [Text.joinWith_cons_cons]

theorem join_ne_nil {above : Text} (filled : above ≠ []) (name : Text) : join above name ≠ [] := by
  rw [join, if_neg (by simpa using filled)]
  simp

/-- The leaf at the end of a path below a key. -/
def behind (above : Text) : List Step × Text → Leaf
  | (path, text) => ⟨Text.joinWith ['.'] (above :: path.map Step.text), text⟩

theorem ofKey_filled {key : Text} (filled : key ≠ []) (value : Text) :
    ofKey key value = [⟨key, value⟩] :=
  if_neg (by simpa using filled)

mutual

/-- Below a key that is not empty each leaf has a key, which starts with that one. -/
theorem below_filled : ∀ (above : Text) (value : Json), above ≠ [] →
    below above value = value.leaves.map (behind above)
  | above, .object members, filled => belowMembers_filled above members filled
  | above, .array items, filled => by
    rw [below, Json.leaves]
    by_cases none : items = []
    · simp [none]
    · by_cases strings : items.all Json.isString
      · simp [none, strings, filled, ofKey_filled filled, behind, Text.joinWith]
      · simp only [none, strings, filled, List.isEmpty_iff, Bool.or_eq_true, or_self, if_false,
          Bool.false_eq_true]
        exact belowItems_filled above 0 items filled
  | above, .null, filled => ofKey_filled filled _
  | above, .bool true, filled => ofKey_filled filled _
  | above, .bool false, filled => ofKey_filled filled _
  | above, .number _, filled => ofKey_filled filled _
  | above, .string _, filled => ofKey_filled filled _

private theorem belowMembers_filled : ∀ (above : Text) (members : List (Text × Json)), above ≠ [] →
    belowMembers above members = (Json.leavesOfMembers members).map (behind above)
  | _, [], _ => rfl
  | above, (name, value) :: rest, filled => by
    rw [belowMembers, Json.leavesOfMembers, List.map_append, belowMembers_filled above rest filled,
      below_filled _ value (join_ne_nil filled name), List.map_map]
    congr 2
    funext ⟨path, text⟩
    simp [behind, joinWith_join filled, Step.text]

private theorem belowItems_filled : ∀ (above : Text) (index : Nat) (items : List Json),
    above ≠ [] → belowItems above index items = (Json.leavesOfItems index items).map (behind above)
  | _, _, [], _ => rfl
  | above, index, item :: rest, filled => by
    rw [belowItems, Json.leavesOfItems, List.map_append,
      belowItems_filled above (index + 1) rest filled,
      below_filled _ item (join_ne_nil filled _), List.map_map]
    congr 2
    funext ⟨path, text⟩
    simp [behind, joinWith_join filled, Step.text]

end

theorem at?_name {name : Text} (filled : name ≠ []) (leaves : List (List Step × Text)) :
    (leaves.map fun (path, text) => (Step.name name :: path, text)).filterMap at? =
      leaves.map (behind name) := by
  rw [List.filterMap_map, ← List.filterMap_eq_map]
  refine List.filterMap_congr fun ⟨path, text⟩ _ => ?_
  simp [at?, behind, keyOf?_name filled]

theorem at?_empty_name (leaves : List (List Step × Text)) :
    (leaves.map fun (path, text) => (Step.name [] :: path, text)).filterMap at? =
      leaves.filterMap at? := by
  rw [List.filterMap_map]
  refine List.filterMap_congr fun ⟨path, text⟩ _ => ?_
  simp [at?, keyOf?_empty_name]

theorem at?_items (index : Nat) (items : List Json) :
    (Json.leavesOfItems index items).filterMap at? = [] := by
  induction items generalizing index with
  | nil => rfl
  | cons item rest ih =>
    rw [Json.leavesOfItems, List.filterMap_append, ih, List.append_nil, List.filterMap_map,
      List.filterMap_eq_nil_iff]
    rintro ⟨path, text⟩ _
    simp [at?, keyOf?_index]

mutual

/-- The leaves of a value are those that have keys. -/
theorem all_eq_listed : ∀ value : Json, all value = listed value
  | .object members => allMembers_eq_listed members
  | .array items => by
    rw [listed, Json.leaves]
    by_cases none : items = []
    · simp [none, all, below]
    · by_cases strings : items.all Json.isString
      · simp [none, strings, all, below, at?, keyOf?]
      · simp [none, strings, all, below, at?_items]
  | .null | .bool true | .bool false | .number _ | .string _ => rfl

private theorem allMembers_eq_listed : ∀ members : List (Text × Json),
    belowMembers [] members = (Json.leavesOfMembers members).filterMap at?
  | [] => rfl
  | (name, value) :: rest => by
    rw [belowMembers, Json.leavesOfMembers, List.filterMap_append, allMembers_eq_listed rest]
    congr 1
    by_cases filled : name = []
    · rw [filled, at?_empty_name]
      exact all_eq_listed value
    · rw [at?_name filled]
      exact below_filled name value filled

end

end Leaf

/-- What an entry declares. -/
def LanguageEntry.leaf (entry : LanguageEntry) : Leaf := ⟨entry.key, entry.value⟩

namespace LanguageFile

variable {line : Text → Nat} {path name : Text}

/-- The keys are those of the leaves, in the order of the first leaf of each. -/
theorem keys_ofLeaves (leaves : List Leaf) :
    (ofLeaves line (empty path name) leaves).keys = (leaves.map (·.key)).eraseDups := by
  rw [ofLeaves_eq, keys_ofEntries, List.map_map]
  rfl

/-- The entries are the table of the leaves. -/
theorem entries_ofLeaves (leaves : List Leaf) :
    (ofLeaves line (empty path name) leaves).entries.map LanguageEntry.leaf =
      Leaf.table leaves := by
  obtain ⟨_, _, _, _, values⟩ := @ofLeaves_spec line path name leaves
  rw [Leaf.table, ← @keys_ofLeaves line path name, keys, List.filterMap_map,
    ← List.filterMap_eq_map]
  refine List.filterMap_congr fun entry inside => ?_
  have found := get?_eq_some_iff.mpr ⟨inside, rfl⟩
  rw [Function.comp_apply, Function.comp_apply, ← values, found]
  rfl

/-- No key is empty. -/
theorem nil_notMem_keys {document : Document} {file : LanguageFile}
    (read : ofDocument document = .ok file) : [] ∉ file.keys := by
  obtain ⟨value, -, rfl⟩ := ofDocument_eq_ok_iff.mp read
  intro inside
  rw [keys_ofLeaves, List.mem_eraseDups, Leaf.all_eq_listed] at inside
  obtain ⟨leaf, listed, empty⟩ := List.mem_map.mp inside
  obtain ⟨⟨path, text⟩, _, made⟩ := List.mem_filterMap.mp listed
  obtain ⟨key, spelled, rfl⟩ := Option.map_eq_some_iff.mp made
  exact Leaf.keyOf?_ne_nil path (spelled.trans (congrArg some empty))

/-- A document with a JSON value is read. The entries of its file are the table of the leaves of
the value that have keys: no two of them have the same key, and no key is empty. -/
theorem ofDocument_flattens {document : Document} {value : Json}
    (read : Json.ofText document.content = .ok value) :
    ∃ file, ofDocument document = .ok file ∧
      file.entries.map LanguageEntry.leaf = Leaf.table (Leaf.listed value) ∧
      file.keys.Nodup ∧ [] ∉ file.keys := by
  have json : document.json = .ok value := mapError_eq_ok.mpr read
  have parsed := ofDocument_eq_ok_iff.mpr ⟨value, json, rfl⟩
  obtain ⟨_, _, distinct, _, _⟩ := ofLeaves_spec (Leaf.all value)
  exact ⟨_, parsed, Leaf.all_eq_listed value ▸ entries_ofLeaves _, distinct,
    nil_notMem_keys parsed⟩

/-- A document with an empty name, both kinds of arrays, an empty object, and a key that is declared
twice: once by the way to it and once by its own name. -/
def assorted : Document where
  path := "en.json".toList
  content := ("\x7b\"\": \x7b\"A\": 0, \"\": [\"x\"]\x7d, \"B\": \x7b\"C\": \"one\", " ++
    "\"L\": [\"p\", \"q\"], \"M\": [true, \x7b\"D\": null\x7d], \"E\": \x7b\x7d\x7d, " ++
    "\"B.C\": \"two\"\x7d").toList

def assortedValue : Json :=
  .object [([], .object [("A".toList, .ofNat 0), ([], .array [.string "x".toList])]),
    ("B".toList, .object [("C".toList, .string "one".toList),
      ("L".toList, .array [.string "p".toList, .string "q".toList]),
      ("M".toList, .array [.bool true, .object [("D".toList, .null)]]),
      ("E".toList, .object [])]),
    ("B.C".toList, .string "two".toList)]

set_option maxRecDepth 100000 in
theorem ofDocument_flattens_assorted :
    Json.ofText assorted.content = .ok assortedValue ∧
      ∃ file, ofDocument assorted = .ok file ∧
        file.entries.map LanguageEntry.leaf =
          [⟨"A".toList, "0".toList⟩, ⟨"B.C".toList, "two".toList⟩, ⟨"B.L".toList, "p, q".toList⟩,
            ⟨"B.M.0".toList, "true".toList⟩, ⟨"B.M.1.D".toList, []⟩] := by
  have read : Json.ofText assorted.content = .ok assortedValue := rfl
  obtain ⟨file, parsed, entries, _, _⟩ := ofDocument_flattens read
  refine ⟨read, file, parsed, entries.trans ?_⟩
  decide +kernel

end LanguageFile

end LocaleLint
