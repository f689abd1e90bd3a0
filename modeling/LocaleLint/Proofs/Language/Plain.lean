import Mathlib
import LocaleLint.Language.Leaf
import LocaleLint.Proofs.Json.Sound
import LocaleLint.Proofs.Language.Removal
import LocaleLint.Proofs.Text.Numeral
import LocaleLint.Proofs.Text.Splitting

/-!
# Plain documents

In a plain document the parts of a key are the names and indices on the way to its leaf: names are
not empty and have no dots. An array is a list of strings, or no removal can make it one, because
it starts with something else. Removing leaves by their keys then leaves the other leaves alone.
-/

namespace LocaleLint

open Json (Members)

/-- Documents in which the key of a leaf spells the way to it. -/
inductive Plain : Json → Prop
  | null : Plain .null
  | bool (value : Bool) : Plain (.bool value)
  | number (n : Json.Number) : Plain (.number n)
  | string (s : Text) : Plain (.string s)
  | array {items : List Json} (few : items.length ≤ 2 ^ 64)
      (shape : items.all Json.isString = true ∨
        ∀ first, items.head? = some first → first.isString = false)
      (values : ∀ item ∈ items, Plain item) : Plain (.array items)
  | object {members : Members} (distinct : (members.map Prod.fst).Nodup)
      (names : ∀ member ∈ members, member.1 ≠ [] ∧ '.' ∉ member.1)
      (values : ∀ member ∈ members, Plain member.2) : Plain (.object members)

/-! ## Routes -/

/-- The way to a leaf, and the value of the leaf. -/
structure Route where
  parts : List Text
  value : Text
deriving Repr, DecidableEq

namespace Route

def behind (name : Text) (route : Route) : Route := ⟨name :: route.parts, route.value⟩

def leaf (above : List Text) (route : Route) : Leaf :=
  ⟨Text.joinWith ['.'] (above ++ route.parts), route.value⟩

mutual

/-- The routes to the leaves of a value, in the order of the text. -/
def all : Json → List Route
  | .object members => ofMembers members
  | .array items =>
    if items.isEmpty then []
    else if items.all Json.isString then
      [⟨[], Text.joinWith ", ".toList (items.filterMap Json.string?)⟩]
    else ofItems 0 items
  | scalar => [⟨[], Leaf.valueOf scalar⟩]

/-- The routes to the leaves of the members of an object. -/
def ofMembers : List (Text × Json) → List Route
  | [] => []
  | (name, value) :: rest => (all value).map (behind name) ++ ofMembers rest

/-- The routes to the leaves of the items of an array, from an index on. -/
def ofItems (index : Nat) : List Json → List Route
  | [] => []
  | item :: rest => (all item).map (behind (Text.ofNat index)) ++ ofItems (index + 1) rest

end

theorem ofMembers_append (before after : Members) :
    ofMembers (before ++ after) = ofMembers before ++ ofMembers after := by
  induction before with
  | nil => rfl
  | cons member rest ih => simp [ofMembers, ih]

theorem ofItems_append (index : Nat) (before after : List Json) :
    ofItems index (before ++ after) =
      ofItems index before ++ ofItems (index + before.length) after := by
  induction before generalizing index with
  | nil => simp [ofItems]
  | cons item rest ih => simp [ofItems, ih, Nat.add_assoc, Nat.add_comm 1]

theorem mem_ofMembers {route : Route} {members : Members} :
    route ∈ ofMembers members ↔
      ∃ member ∈ members, ∃ inner ∈ all member.2, route = inner.behind member.1 := by
  induction members with
  | nil => simp [ofMembers]
  | cons member rest ih => simp [ofMembers, ih, eq_comm]

theorem mem_ofItems {route : Route} {index : Nat} {items : List Json} :
    route ∈ ofItems index items ↔ ∃ i item, items[i]? = some item ∧
      ∃ inner ∈ all item, route = inner.behind (Text.ofNat (index + i)) := by
  induction items generalizing index with
  | nil => simp [ofItems]
  | cons item rest ih =>
    rw [ofItems, List.mem_append, ih]
    constructor
    · rintro (first | ⟨i, x, found, inner, inside, rfl⟩)
      · obtain ⟨inner, inside, rfl⟩ := List.mem_map.mp first
        exact ⟨0, item, rfl, inner, inside, rfl⟩
      · exact ⟨i + 1, x, found, inner, inside, by rw [Nat.add_assoc, Nat.add_comm 1]⟩
    · rintro ⟨i, x, found, inner, inside, rfl⟩
      cases i with
      | zero =>
        cases found
        exact .inl (List.mem_map_of_mem inside)
      | succ i => exact .inr ⟨i, x, found, inner, inside, by rw [Nat.add_assoc, Nat.add_comm 1]⟩

/-- Where a route is empty the value is a leaf itself. -/
theorem all_of_empty {value : Json} {route : Route} (inside : route ∈ all value)
    (empty : route.parts = []) : ∃ text, all value = [⟨[], text⟩] := by
  cases value with
  | object members =>
    obtain ⟨_, _, inner, _, rfl⟩ := mem_ofMembers.mp inside
    cases empty
  | array items =>
    by_cases none : items.isEmpty
    · rw [all, if_pos none] at inside
      cases inside
    · by_cases strings : items.all Json.isString
      · exact ⟨_, by rw [all, if_neg none, if_pos strings]⟩
      · rw [all, if_neg none, if_neg strings] at inside
        obtain ⟨_, _, _, inner, _, rfl⟩ := mem_ofItems.mp inside
        cases empty
  | _ => exact ⟨_, rfl⟩

theorem all_of_isEmptyContainer {value : Json} (empty : value.isEmptyContainer) :
    all value = [] := by
  unfold Json.isEmptyContainer at empty
  split at empty
  · rfl
  · rfl
  · cases empty

theorem all_array {items : List Json}
    (head : ∀ first, items.head? = some first → first.isString = false) :
    all (.array items) = ofItems 0 items := by
  cases items with
  | nil => rfl
  | cons first rest =>
    have mixed := head first rfl
    simp [all, mixed]

end Route

/-! ## Leaves -/

theorem joinWith_concat (parts : List Text) (name : Text) (some : parts ≠ []) :
    Text.joinWith ['.'] (parts ++ [name]) = Text.joinWith ['.'] parts ++ '.' :: name := by
  induction parts with
  | nil => exact absurd rfl some
  | cons part rest ih =>
    cases rest with
    | nil => simp [Text.joinWith]
    | cons second others =>
      have later := ih (List.cons_ne_nil _ _)
      simp only [List.cons_append, Text.joinWith_cons_cons] at later ⊢
      rw [later]
      simp

theorem joinWith_ne_nil {parts : List Text} (some : parts ≠ [])
    (filled : ∀ part ∈ parts, part ≠ []) :
    Text.joinWith ['.'] parts ≠ [] := by
  obtain ⟨first, rest, rfl⟩ := List.exists_cons_of_ne_nil some
  exact Text.joinWith_cons_ne_nil _ (filled first List.mem_cons_self) rest

theorem join_joinWith {parts : List Text} (filled : ∀ part ∈ parts, part ≠ []) (name : Text) :
    Leaf.join (Text.joinWith ['.'] parts) name = Text.joinWith ['.'] (parts ++ [name]) := by
  by_cases none : parts = []
  · rw [none]
    rfl
  · have some := joinWith_ne_nil none filled
    rw [joinWith_concat parts name none, Leaf.join, if_neg (by simpa using some)]

section

variable {above : List Text}

private theorem leaf_behind (above : List Text) (name : Text) (routes : List Route) :
    (routes.map (Route.behind name)).map (Route.leaf above) =
      routes.map (Route.leaf (above ++ [name])) := by
  simp [Route.leaf, Route.behind, Function.comp_def]

theorem filled_concat {name : Text} (filled : ∀ part ∈ above, part ≠ [])
    (some : name ≠ []) : ∀ part ∈ above ++ [name], part ≠ [] := by
  intro part inside
  rcases List.mem_append.mp inside with before | last
  · exact filled part before
  · rw [List.mem_singleton.mp last]
    exact some

theorem belowMembers_eq (above : List Text) {members : Members}
    (filled : ∀ part ∈ above, part ≠ [])
    (names : ∀ member ∈ members, member.1 ≠ [] ∧ '.' ∉ member.1)
    (values : ∀ member ∈ members, ∀ above, above ≠ [] → (∀ part ∈ above, part ≠ []) →
      Leaf.below (Text.joinWith ['.'] above) member.2 =
        (Route.all member.2).map (Route.leaf above)) :
    Leaf.belowMembers (Text.joinWith ['.'] above) members =
      (Route.ofMembers members).map (Route.leaf above) := by
  induction members with
  | nil => rfl
  | cons member rest ih =>
    obtain ⟨name, value⟩ := member
    have some := (names _ List.mem_cons_self).1
    have first := values _ List.mem_cons_self (above ++ [name]) (by simp)
      (filled_concat filled some)
    have others := ih (fun m inside => names m (List.mem_cons_of_mem _ inside))
      fun m inside => values m (List.mem_cons_of_mem _ inside)
    rw [Leaf.belowMembers, Route.ofMembers, List.map_append, leaf_behind, join_joinWith filled,
      first, others]

theorem belowItems_eq {items : List Json} (filled : ∀ part ∈ above, part ≠ []) (index : Nat)
    (values : ∀ item ∈ items, ∀ above, above ≠ [] → (∀ part ∈ above, part ≠ []) →
      Leaf.below (Text.joinWith ['.'] above) item = (Route.all item).map (Route.leaf above)) :
    Leaf.belowItems (Text.joinWith ['.'] above) index items =
      (Route.ofItems index items).map (Route.leaf above) := by
  induction items generalizing index with
  | nil => rfl
  | cons item rest ih =>
    have first := values _ List.mem_cons_self (above ++ [Text.ofNat index]) (by simp)
      (filled_concat filled (Text.ofNat_ne_nil index))
    have others := ih (index + 1) fun x inside => values x (List.mem_cons_of_mem _ inside)
    rw [Leaf.belowItems, Route.ofItems, List.map_append, leaf_behind, join_joinWith filled, first,
      others]

/-- Below a key the keys of the leaves are spelled by the routes to them. -/
theorem Plain.below_eq {value : Json} (plain : Plain value) (some : above ≠ [])
    (filled : ∀ part ∈ above, part ≠ []) :
    Leaf.below (Text.joinWith ['.'] above) value = (Route.all value).map (Route.leaf above) := by
  have key := joinWith_ne_nil some filled
  have ofKey : ∀ text, Leaf.ofKey (Text.joinWith ['.'] above) text =
      [Route.leaf above ⟨[], text⟩] := by
    intro text
    simp [Leaf.ofKey, key, Route.leaf]
  induction plain generalizing above with
  | object distinct names values ih =>
    exact belowMembers_eq _ filled names fun member inside above some filled =>
      ih member inside some filled (joinWith_ne_nil some filled) fun text => by
        simp [Leaf.ofKey, joinWith_ne_nil some filled, Route.leaf]
  | @array items few shape values ih =>
    rw [Leaf.below, Route.all]
    by_cases none : items.isEmpty
    · simp [none]
    · by_cases strings : items.all Json.isString
      · simp [none, strings, key, ofKey]
      · have each := belowItems_eq filled 0 fun item inside above some filled =>
          ih item inside some filled (joinWith_ne_nil some filled) fun text => by
            simp [Leaf.ofKey, joinWith_ne_nil some filled, Route.leaf]
        simp [none, strings, key, each]
  | _ => exact ofKey _

end

/-- The leaves of a plain object have the keys that their routes spell. -/
theorem Plain.leaves_eq {members : Members} (plain : Plain (.object members)) :
    Leaf.all (.object members) = (Route.all (.object members)).map (Route.leaf []) := by
  cases plain with
  | object distinct names values =>
    exact belowMembers_eq [] nofun names fun member inside above some filled =>
      (values member inside).below_eq some filled

/-! ## One removal -/

namespace Route

/-- The routes other than one. -/
def without (parts : List Text) (routes : List Route) : List Route :=
  routes.filter (·.parts ≠ parts)

theorem without_map_behind (name : Text) (rest : List Text) (routes : List Route) :
    without (name :: rest) (routes.map (behind name)) =
      (without rest routes).map (behind name) := by
  simp [without, List.filter_map, behind, Function.comp_def]

theorem without_eq_self {parts : List Text} {routes : List Route}
    (absent : ∀ route ∈ routes, route.parts ≠ parts) : without parts routes = routes := by
  rw [without, List.filter_eq_self]
  intro route inside
  simpa using absent route inside

theorem without_append (parts : List Text) (left right : List Route) :
    without parts (left ++ right) = without parts left ++ without parts right :=
  List.filter_append ..

/-- Only the routes through a member change when one of them is left out. -/
theorem without_ofMembers {before after : Members} {name : Text} {child : Json}
    (left : name ∉ before.map Prod.fst) (right : name ∉ after.map Prod.fst) (rest : List Text) :
    without (name :: rest) (ofMembers (before ++ (name, child) :: after)) =
      ofMembers before ++ ((without rest (all child)).map (behind name) ++ ofMembers after) := by
  have others : ∀ members : Members, name ∉ members.map Prod.fst →
      without (name :: rest) (ofMembers members) = ofMembers members := by
    intro members absent
    apply without_eq_self
    intro route inside same
    obtain ⟨member, found, inner, _, rfl⟩ := mem_ofMembers.mp inside
    have equal : member.1 = name := (List.cons.inj same).1
    exact absent (equal ▸ List.mem_map_of_mem found)
  rw [ofMembers_append, ofMembers, without_append, without_append, others before left,
    others after right, without_map_behind]

/-- Only the routes through an item change when one of them is left out. -/
theorem without_ofItems (before after : List Json) (item : Json) (rest : List Text) :
    without (Text.ofNat before.length :: rest) (ofItems 0 (before ++ item :: after)) =
      ofItems 0 before ++ ((without rest (all item)).map (behind (Text.ofNat before.length)) ++
        ofItems (before.length + 1) after) := by
  have left : without (Text.ofNat before.length :: rest) (ofItems 0 before) =
      ofItems 0 before := by
    apply without_eq_self
    intro route inside same
    obtain ⟨i, x, found, inner, _, rfl⟩ := mem_ofItems.mp inside
    have equal := Text.ofNat_injective (List.cons.inj same).1
    have := (List.getElem?_eq_some_iff.mp found).1
    omega
  have right : without (Text.ofNat before.length :: rest) (ofItems (before.length + 1) after) =
      ofItems (before.length + 1) after := by
    apply without_eq_self
    intro route inside same
    obtain ⟨i, x, found, inner, _, rfl⟩ := mem_ofItems.mp inside
    have equal := Text.ofNat_injective (List.cons.inj same).1
    omega
  rw [ofItems_append, Nat.zero_add, ofItems, without_append, without_append, left, right,
    without_map_behind]

end Route

open Removal Route

private theorem head_append {before after after' : List Json} {item x : Json}
    (head : ∀ first, (before ++ item :: after).head? = some first → first.isString = false)
    (mixed : x.isString = false) :
    ∀ first, (before ++ x :: after').head? = some first → first.isString = false := by
  cases before with
  | nil =>
    intro first found
    cases found
    exact mixed
  | cons b before => exact head

private theorem Plain.member_parts {before after : Members} {name : Text} {child : Json}
    (plain : Plain (.object (before ++ (name, child) :: after))) :
    name ∉ before.map Prod.fst ∧ name ∉ after.map Prod.fst ∧ Plain child ∧
      Plain (.object (before ++ after)) ∧
      ∀ inner, Plain inner → Plain (.object (before ++ (name, inner) :: after)) := by
  cases plain with
  | object distinct names values =>
    rw [List.map_append, List.map_cons] at distinct
    have split := List.nodup_append.mp distinct
    have shorter : (before ++ after).Sublist (before ++ (name, child) :: after) :=
      (List.sublist_cons_self _ _).append_left _
    refine ⟨fun inside => split.2.2 _ inside _ List.mem_cons_self rfl,
      (List.nodup_cons.mp split.2.1).1, values (name, child) (by simp), ?_,
      fun inner plain => ?_⟩
    · refine .object ?_ (fun m inside => names m (shorter.mem inside)) fun m inside =>
        values m (shorter.mem inside)
      rw [List.map_append]
      exact distinct.sublist ((List.sublist_cons_self _ _).append_left _)
    · have origin : ∀ m ∈ before ++ (name, inner) :: after,
          m = (name, inner) ∨ m ∈ before ++ (name, child) :: after := by
        intro m inside
        simp only [List.mem_append, List.mem_cons] at inside ⊢
        tauto
      refine .object (by simpa using distinct) (fun m inside => ?_) fun m inside => ?_
      · rcases origin m inside with rfl | old
        · exact names (name, child) (by simp)
        · exact names m old
      · rcases origin m inside with rfl | old
        · exact plain
        · exact values m old

private theorem Plain.item_parts {before after : List Json} {item : Json}
    (plain : Plain (.array (before ++ item :: after)))
    (head : ∀ first, (before ++ item :: after).head? = some first → first.isString = false) :
    Text.toIndex? (Text.ofNat before.length) = some before.length ∧ Plain item ∧
      Plain (.array before) ∧
      (∀ first, before.head? = some first → first.isString = false) ∧
      ∀ inner, inner.isString = false → Plain inner →
        Plain (.array (before ++ inner :: after)) := by
  cases plain with
  | array few shape values =>
    have start : ∀ first, before.head? = some first → first.isString = false := by
      cases before with
      | nil => exact nofun
      | cons b before => exact head
    rw [List.length_append, List.length_cons] at few
    refine ⟨Text.toIndex?_ofNat (by omega), values item (by simp), ?_, start,
      fun inner mixed plain => ?_⟩
    · exact .array (by omega) (.inr start) fun x inside => values x (List.mem_append_left _ inside)
    · refine .array ?_ (.inr (head_append head mixed)) fun x inside => ?_
      · rw [List.length_append, List.length_cons]
        exact few
      · rcases List.mem_append.mp inside with old | behind
        · exact values x (List.mem_append_left _ old)
        · rcases List.mem_cons.mp behind with rfl | old
          · exact plain
          · exact values x (List.mem_append_right _ (List.mem_cons_of_mem _ old))

section
variable {before after : Members} {name : Text} {child : Json}

/-- A member that is taken out takes its routes along. -/
private theorem Plain.member_erased (plain : Plain (.object (before ++ (name, child) :: after))) :
    Plain (.object (Members.erase name (before ++ (name, child) :: after))) ∧
      all (.object (Members.erase name (before ++ (name, child) :: after))) =
        ofMembers before ++ ofMembers after := by
  obtain ⟨left, -, -, erased, -⟩ := plain.member_parts
  rw [Members.erase_append after left]
  exact ⟨erased, ofMembers_append ..⟩

/-- A member that is put back changes its routes only. -/
private theorem Plain.member_put (plain : Plain (.object (before ++ (name, child) :: after)))
    {inner : Json} (plainInner : Plain inner) :
    Plain (.object (putMember (before ++ (name, child) :: after) name inner)) ∧
      all (.object (putMember (before ++ (name, child) :: after) name inner)) =
        ofMembers before ++ ((all inner).map (behind name) ++ ofMembers after) := by
  unfold putMember
  split
  · rename_i none
    rw [all_of_isEmptyContainer none]
    exact plain.member_erased
  · obtain ⟨left, -, -, -, put⟩ := plain.member_parts
    rw [Members.insert_append inner after left]
    exact ⟨put inner plainInner, by rw [all, ofMembers_append, ofMembers]⟩

end

section
variable {before after : List Json} {item : Json}
  (plain : Plain (.array (before ++ item :: after)))
  (head : ∀ first, (before ++ item :: after).head? = some first → first.isString = false)
include plain head

/-- An item that is taken out takes its routes along, and the others keep their indices. -/
private theorem Plain.item_dropped :
    Plain (.array (dropItem (before ++ item :: after) before.length)) ∧
      all (.array (dropItem (before ++ item :: after) before.length)) =
        ofItems 0 before ++ ofItems (before.length + 1) after := by
  obtain ⟨-, -, plainBefore, start, put⟩ := plain.item_parts head
  rw [dropItem_append]
  split
  · rename_i last
    rw [last, all_array start, ofItems, List.append_nil]
    exact ⟨plainBefore, rfl⟩
  · -- An empty object keeps the place.
    have empty : Plain (.object []) := .object List.nodup_nil nofun nofun
    refine ⟨put _ rfl empty, ?_⟩
    rw [all_array (head_append head rfl), ofItems_append, Nat.zero_add, ofItems]
    rfl

/-- An item that is put back changes its routes only. -/
private theorem Plain.item_put {inner : Json} (mixed : inner.isString = false)
    (plainInner : Plain inner) :
    Plain (.array (putItem (before ++ item :: after) before.length inner)) ∧
      all (.array (putItem (before ++ item :: after) before.length inner)) =
        ofItems 0 before ++ ((all inner).map (behind (Text.ofNat before.length)) ++
          ofItems (before.length + 1) after) := by
  unfold putItem
  split
  · rename_i none
    rw [all_of_isEmptyContainer none]
    exact plain.item_dropped head
  · obtain ⟨-, -, -, -, put⟩ := plain.item_parts head
    rw [List.set_append_right _ _ (Nat.le_refl _), Nat.sub_self, List.set_cons_zero]
    refine ⟨put inner mixed plainInner, ?_⟩
    rw [all_array (head_append head mixed), ofItems_append, Nat.zero_add, ofItems]

end

/-- Removing what a route leads to leaves all other routes as they are. -/
theorem Plain.exists_removed {value : Json} (plain : Plain value) {route : Route}
    (inside : route ∈ all value) (some : route.parts ≠ []) :
    ∃ left, removeAt? route.parts value = .some left ∧ Plain left ∧ left.isString = false ∧
      all left = without route.parts (all value) := by
  obtain ⟨parts, text⟩ := route
  dsimp only at some ⊢
  induction parts generalizing value with
  | nil => exact absurd rfl some
  | cons part rest ih =>
    match value, plain with
    | .object members, plain =>
      obtain ⟨⟨name, child⟩, found, inner, innerInside, equal⟩ := mem_ofMembers.mp inside
      obtain ⟨before, after, rfl⟩ := List.append_of_mem found
      obtain ⟨left, right, plainChild, -, -⟩ := plain.member_parts
      cases equal
      rw [removeAt?, Members.get?_append after left, Option.bind_some, all,
        without_ofMembers left right]
      by_cases last : inner.parts = []
      · obtain ⟨leaf, single⟩ := all_of_empty innerInside last
        obtain ⟨erased, routes⟩ := plain.member_erased
        refine ⟨_, by rw [last]; rfl, erased, rfl, ?_⟩
        rw [routes, single, last]
        rfl
      · obtain ⟨child', removed, plainLeft, _, inside⟩ := ih plainChild innerInside last
        obtain ⟨put, routes⟩ := plain.member_put plainLeft
        rw [if_neg (by simpa using last), removed, Option.map_some]
        exact ⟨_, rfl, put, rfl, by rw [routes, inside]⟩
    | .array items, plain =>
      have mixed : ¬ items.isEmpty ∧ ¬ items.all Json.isString := by
        constructor
        · intro none
          rw [all, if_pos none] at inside
          cases inside
        · intro strings
          rw [all] at inside
          split at inside
          · cases inside
          · cases List.mem_singleton.mp inside
      have head : ∀ first, items.head? = .some first → first.isString = false := by
        cases plain with
        | array few shape values => exact shape.resolve_left mixed.2
      rw [all_array head] at inside ⊢
      obtain ⟨i, item, found, inner, innerInside, equal⟩ := mem_ofItems.mp inside
      obtain ⟨before, after, rfl, rfl⟩ := exists_around found
      obtain ⟨index, plainItem, -, -, -⟩ := plain.item_parts head
      cases equal
      rw [Nat.zero_add] at some ⊢
      rw [removeAt?, index, Option.bind_some, List.getElem?_append_right (le_refl _), Nat.sub_self,
        List.getElem?_cons_zero, Option.bind_some, without_ofItems]
      by_cases last : inner.parts = []
      · obtain ⟨leaf, single⟩ := all_of_empty innerInside last
        obtain ⟨dropped, routes⟩ := plain.item_dropped head
        refine ⟨_, by rw [last]; rfl, dropped, rfl, ?_⟩
        rw [routes, single, last]
        rfl
      · obtain ⟨item', removed, plainLeft, notString, inside⟩ := ih plainItem innerInside last
        obtain ⟨put, routes⟩ := plain.item_put head notString plainLeft
        rw [if_neg (by simpa using last), removed, Option.map_some]
        exact ⟨_, rfl, put, rfl, by rw [routes, inside]⟩

/-! ## All removals -/

def Json.names : Json → List Text
  | .object members => members.map Prod.fst
  | _ => []

theorem names_removeAt_subset (parts : List Text) (value : Json) :
    (removeAt parts value).names ⊆ value.names := by
  unfold removeAt
  cases removed : removeAt? parts value with
  | none => exact List.Subset.refl _
  | some left =>
    rcases removeAt?_eq_some removed with
      ⟨name, _, members, child, _, rfl, found, done⟩ | ⟨_, _, items, _, _, _, rfl, _, _, done⟩
    · have erased := ((Members.erase_sublist name members).map Prod.fst).subset
      rcases done with ⟨_, rfl⟩ | ⟨inner, _, _, rfl⟩
      · exact erased
      · change (putMember members name inner).map Prod.fst ⊆ members.map Prod.fst
        unfold putMember
        split
        · exact erased
        · have old : name ∈ members.map Prod.fst := List.mem_map_of_mem (mem_of_get? found)
          rw [Members.map_fst_insert, if_pos old]
          exact List.Subset.refl _
    · rcases done with ⟨_, rfl⟩ | ⟨_, _, _, rfl⟩
      · exact List.Subset.refl _
      · exact List.Subset.refl _

theorem removeAt_of_notMem {name : Text} {members : Members}
    (absent : name ∉ members.map Prod.fst) :
    removeAt [name] (.object members) = .object members := by
  simp [removeAt, removeAt?, Members.get?_eq_none absent]

/-- What can be told about the parts of a key before its turn: either they lead to a leaf, or they
are a single name that is gone. -/
def Pending (value : Json) (parts : List Text) : Prop :=
  (∃ route ∈ all value, route.parts = parts) ∨ ∃ name, parts = [name] ∧ name ∉ value.names

private theorem Pending.without {value next : Json} {parts other : List Text}
    (pending : Pending value other) (differs : other ≠ parts) (names : next.names ⊆ value.names)
    (routes : all next = without parts (all value)) : Pending next other := by
  rcases pending with ⟨route, inside, rfl⟩ | ⟨name, rfl, absent⟩
  · refine .inl ⟨route, ?_, rfl⟩
    rw [routes, Route.without, List.mem_filter]
    exact ⟨inside, decide_eq_true differs⟩
  · exact .inr ⟨name, rfl, fun present => absent (names present)⟩

/-- The turn of a key takes out what its parts lead to, and no other route. -/
private theorem Plain.removeAt_pending {members : Members} (plain : Plain (.object members))
    {parts : List Text} (some : parts ≠ []) (pending : Pending (.object members) parts) :
    ∃ next, removeAt parts (.object members) = .object next ∧ Plain (.object next) ∧
      all (.object next) = without parts (all (.object members)) := by
  rcases pending with ⟨route, inside, rfl⟩ | ⟨name, rfl, absent⟩
  · obtain ⟨left, removed, plainLeft, _, routes⟩ := plain.exists_removed inside some
    have result : removeAt route.parts (.object members) = left := by
      rw [removeAt, removed]
      rfl
    rcases removeAt?_eq_some removed with
      ⟨_, _, _, _, _, _, _, ⟨_, rfl⟩ | ⟨_, _, _, rfl⟩⟩ | ⟨_, _, _, _, _, _, equal, _⟩
    · exact ⟨_, result, plainLeft, routes⟩
    · exact ⟨_, result, plainLeft, routes⟩
    · cases equal
  · refine ⟨members, removeAt_of_notMem absent, plain, (without_eq_self ?_).symm⟩
    intro route inside same
    obtain ⟨member, found, inner, _, rfl⟩ := mem_ofMembers.mp inside
    have equal : member.1 = name := (List.cons.inj same).1
    exact absent (equal ▸ List.mem_map_of_mem found)

private theorem Plain.foldl_removeAt {members : Members} (plain : Plain (.object members))
    {queue : List (List Text)} (distinct : queue.Nodup) (some : ∀ parts ∈ queue, parts ≠ [])
    (pending : ∀ parts ∈ queue, Pending (.object members) parts) :
    ∃ left, queue.foldl (fun value parts => removeAt parts value) (.object members) =
        .object left ∧ Plain (.object left) ∧
      all (.object left) = (all (.object members)).filter (·.parts ∉ queue) := by
  induction queue generalizing members with
  | nil => exact ⟨members, rfl, plain, by simp⟩
  | cons parts queue ih =>
    obtain ⟨fresh, distinct⟩ := List.nodup_cons.mp distinct
    obtain ⟨next, removed, plainNext, routes⟩ :=
      plain.removeAt_pending (some _ List.mem_cons_self) (pending _ List.mem_cons_self)
    have names : (Json.object next).names ⊆ (Json.object members).names :=
      removed ▸ names_removeAt_subset parts (.object members)
    have later : ∀ other ∈ queue, Pending (.object next) other := by
      intro other inside
      have differs : other ≠ parts := fun same => fresh (same ▸ inside)
      exact (pending other (List.mem_cons_of_mem _ inside)).without differs names routes
    obtain ⟨left, folded, plainLeft, others⟩ :=
      ih plainNext distinct (fun other inside => some other (List.mem_cons_of_mem _ inside)) later
    refine ⟨left, by rw [List.foldl_cons, removed, folded], plainLeft, ?_⟩
    rw [others, routes, without, List.filter_filter]
    congr 1
    funext route
    rw [Bool.and_comm]
    simp [not_or]

private theorem Plain.removeAt_name {members : Members} (plain : Plain (.object members))
    {name : Text} (present : name ∈ members.map Prod.fst) :
    removeAt [name] (.object members) = .object (Members.erase name members) := by
  obtain ⟨⟨_, child⟩, found, rfl⟩ := List.mem_map.mp present
  obtain ⟨before, after, rfl⟩ := List.append_of_mem found
  rw [removeAt, removeAt?, Members.get?_append after plain.member_parts.1]
  rfl

private theorem Plain.partsOf_name {members : Members} (plain : Plain (.object members))
    {name : Text} (present : name ∈ members.map Prod.fst) : partsOf name = [name] := by
  cases plain with
  | object distinct names values =>
    obtain ⟨member, inside, rfl⟩ := List.mem_map.mp present
    have clean : '.' ∉ member.1 := (names member inside).2
    have some : [member.1] ≠ [] := List.cons_ne_nil _ _
    exact Text.splitOn_joinWith some (by simpa using clean)

private theorem Plain.erase_name {members : Members} (plain : Plain (.object members))
    {queue : List (List Text)} (pending : ∀ parts ∈ queue, Pending (.object members) parts)
    {key : Text} (asked : partsOf key ∈ queue) :
    Plain (.object (Members.erase key members)) ∧
      (∀ parts ∈ queue, Pending (.object (Members.erase key members)) parts) ∧
      (all (.object (Members.erase key members))).filter (·.parts ∉ queue) =
        (all (.object members)).filter (·.parts ∉ queue) := by
  by_cases present : key ∈ members.map Prod.fst
  · rw [plain.partsOf_name present] at asked
    obtain ⟨next, removed, plainNext, routes⟩ :=
      plain.removeAt_pending (List.cons_ne_nil _ _) (pending [key] asked)
    cases (plain.removeAt_name present).symm.trans removed
    refine ⟨plainNext, fun parts inQueue => ?_, ?_⟩
    · by_cases same : parts = [key]
      · cases plain with
        | object distinct names values =>
          exact .inr ⟨key, same, Members.notMem_erase_self distinct⟩
      · exact (pending parts inQueue).without same
          ((Members.erase_sublist key members).map Prod.fst).subset routes
    · rw [routes, without, List.filter_filter]
      congr 1
      funext route
      by_cases this : route.parts = [key]
      · simp [this, asked]
      · simp [this]
  · rw [Members.erase_of_notMem present]
    exact ⟨plain, pending, rfl⟩

private theorem Plain.removeNames {members : Members} (plain : Plain (.object members))
    {queue : List (List Text)} (pending : ∀ parts ∈ queue, Pending (.object members) parts)
    {keys : List Text} (asked : ∀ key ∈ keys, partsOf key ∈ queue) :
    ∃ left, removeNames keys (.object members) = .object left ∧ Plain (.object left) ∧
      (∀ parts ∈ queue, Pending (.object left) parts) ∧
      (all (.object left)).filter (·.parts ∉ queue) =
        (all (.object members)).filter (·.parts ∉ queue) := by
  refine ⟨_, rfl, ?_⟩
  induction keys generalizing members with
  | nil => exact ⟨plain, pending, rfl⟩
  | cons key rest ih =>
    obtain ⟨plainNext, pendingNext, same⟩ := plain.erase_name pending (asked key List.mem_cons_self)
    obtain ⟨plainLeft, pendingLeft, others⟩ := ih plainNext pendingNext fun k inside =>
      asked k (List.mem_cons_of_mem _ inside)
    exact ⟨plainLeft, pendingLeft, others.trans same⟩

/-! ## Keys -/

theorem digit_ne_dot {c : Char} (digit : (Text.digitValue? c).isSome) : c ≠ '.' := by
  rintro rfl
  revert digit
  decide

theorem Plain.route_clean {value : Json} (plain : Plain value) {route : Route}
    (inside : route ∈ all value) : ∀ part ∈ route.parts, '.' ∉ part := by
  induction plain generalizing route with
  | object distinct names values ih =>
    obtain ⟨member, found, inner, innerInside, rfl⟩ := mem_ofMembers.mp inside
    intro part named
    rcases List.mem_cons.mp named with rfl | later
    · exact (names member found).2
    · exact ih member found innerInside part later
  | array few shape values ih =>
    intro part named
    rw [all] at inside
    split at inside
    · cases inside
    · split at inside
      · cases List.mem_singleton.mp inside
        cases named
      · obtain ⟨i, item, found, inner, innerInside, rfl⟩ := mem_ofItems.mp inside
        rcases List.mem_cons.mp named with rfl | later
        · exact fun dot => digit_ne_dot (Text.isDigits_ofNat _ _ dot) rfl
        · exact ih item (List.mem_of_getElem? found) innerInside part later
  | _ =>
    cases List.mem_singleton.mp inside
    exact nofun

/-- The parts of the key of a leaf are the route to it. -/
theorem Plain.partsOf_leaf {members : Members} (plain : Plain (.object members)) {route : Route}
    (inside : route ∈ all (.object members)) : partsOf (route.leaf []).key = route.parts := by
  have some : route.parts ≠ [] := by
    obtain ⟨_, _, inner, _, rfl⟩ := mem_ofMembers.mp inside
    exact List.cons_ne_nil _ _
  exact Text.splitOn_joinWith some (plain.route_clean inside)

theorem joinWith_partsOf (key : Text) : Text.joinWith ['.'] (partsOf key) = key :=
  Text.joinWith_splitOn '.' key

theorem partsOf_injective : Function.Injective partsOf := fun a b same => by
  rw [← joinWith_partsOf a, same, joinWith_partsOf]

private theorem Plain.leaves_removeKeys_object {members : Members} (plain : Plain (.object members))
    {keys : List Text} (distinct : keys.Nodup)
    (declared : ∀ key ∈ keys, key ∈ (Leaf.all (.object members)).map (·.key)) :
    Leaf.all (removeKeys keys (.object members)) =
      (Leaf.all (.object members)).filter (·.key ∉ keys) := by
  have order : (removalOrder keys).Perm (keys.map partsOf) := List.mergeSort_perm ..
  have pending : ∀ parts ∈ removalOrder keys, Pending (.object members) parts := by
    intro parts inside
    obtain ⟨key, asked, rfl⟩ := List.mem_map.mp (order.mem_iff.mp inside)
    obtain ⟨leaf, found, rfl⟩ := List.mem_map.mp (declared key asked)
    rw [plain.leaves_eq] at found
    obtain ⟨route, way, rfl⟩ := List.mem_map.mp found
    exact .inl ⟨route, way, (plain.partsOf_leaf way).symm⟩
  have asked : ∀ key ∈ keys, partsOf key ∈ removalOrder keys := fun key inside =>
    order.mem_iff.mpr (List.mem_map_of_mem inside)
  obtain ⟨named, removed, plainNamed, pendingNamed, before⟩ := plain.removeNames pending asked
  have some : ∀ parts ∈ removalOrder keys, parts ≠ [] := by
    intro parts inside
    obtain ⟨key, _, rfl⟩ := List.mem_map.mp (order.mem_iff.mp inside)
    exact Text.splitOn_ne_nil '.' key
  obtain ⟨left, folded, plainLeft, routes⟩ := plainNamed.foldl_removeAt
    (order.nodup_iff.mpr (distinct.map partsOf_injective)) some pendingNamed
  rw [removeKeys, removed, folded, plainLeft.leaves_eq, plain.leaves_eq, routes, before,
    List.filter_map]
  congr 1
  apply List.filter_congr
  intro route inside
  have iff : route.parts ∈ removalOrder keys ↔ (route.leaf []).key ∈ keys := by
    rw [order.mem_iff, ← plain.partsOf_leaf inside]
    exact List.mem_map_of_injective partsOf_injective
  simp [iff]

/-- Removing keys of leaves from a plain value leaves exactly the other leaves. -/
theorem Plain.leaves_removeKeys {value : Json} (plain : Plain value) {keys : List Text}
    (distinct : keys.Nodup) (declared : ∀ key ∈ keys, key ∈ (Leaf.all value).map (·.key)) :
    Leaf.all (removeKeys keys value) = (Leaf.all value).filter (·.key ∉ keys) := by
  cases value with
  | object members => exact plain.leaves_removeKeys_object distinct declared
  | _ =>
    have none : keys = [] := List.eq_nil_iff_forall_not_mem.mpr fun key inside => by
      have := declared key inside
      simp [Leaf.all, Leaf.below, Leaf.ofKey] at this
    rw [none, Removal.removeKeys_nil]
    simp

end LocaleLint
