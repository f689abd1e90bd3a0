import Mathlib
import LocaleLint.Language.Removal
import LocaleLint.Proofs.Json.Sound

/-!
# What removal leaves

Removing keys from a sound value leaves a sound value, with no doubles but those of the value. It
puts an empty object in the place of an item at worst, so a value of whose arrays each item may be a
container nests no deeper afterwards.
-/

namespace LocaleLint

namespace Json.Members

theorem erase_of_notMem {name : Text} {members : Members} (absent : name ∉ members.map Prod.fst) :
    erase name members = members := by
  induction members with
  | nil => rfl
  | cons member rest ih =>
    obtain ⟨n, v⟩ := member
    have other : n ≠ name := fun same => absent (by simp [same])
    rw [erase, if_neg other, ih fun inside => absent (List.mem_cons_of_mem n inside)]

theorem erase_append {name : Text} {child : Json} {before : Members} (after : Members)
    (absent : name ∉ before.map Prod.fst) :
    erase name (before ++ (name, child) :: after) = before ++ after := by
  induction before with
  | nil => simp [erase]
  | cons member rest ih =>
    obtain ⟨n, v⟩ := member
    have other : n ≠ name := fun same => absent (by simp [same])
    rw [List.cons_append, erase, if_neg other,
      ih fun inside => absent (List.mem_cons_of_mem n inside), List.cons_append]

theorem insert_append {name : Text} {child : Json} {before : Members} (value : Json)
    (after : Members) (absent : name ∉ before.map Prod.fst) :
    insert name value (before ++ (name, child) :: after) = before ++ (name, value) :: after := by
  induction before with
  | nil => simp [insert]
  | cons member rest ih =>
    obtain ⟨n, v⟩ := member
    have other : n ≠ name := fun same => absent (by simp [same])
    rw [List.cons_append, insert, if_neg other,
      ih fun inside => absent (List.mem_cons_of_mem n inside), List.cons_append]

/-- A member that is found stands behind members with other names. -/
theorem get?_eq_some {name : Text} {child : Json} {members : Members}
    (found : get? name members = some child) :
    ∃ before after, members = before ++ (name, child) :: after ∧ name ∉ before.map Prod.fst := by
  induction members with
  | nil => cases found
  | cons member rest ih =>
    obtain ⟨n, v⟩ := member
    by_cases same : name = n
    · rw [get?, List.lookup_cons, beq_iff_eq.mpr same] at found
      cases found
      exact ⟨[], rest, by rw [same]; rfl, List.not_mem_nil⟩
    · rw [get?, List.lookup_cons, beq_false_of_ne same] at found
      obtain ⟨before, after, split, absent⟩ := ih found
      refine ⟨(n, v) :: before, after, by rw [split]; rfl, fun inside => ?_⟩
      exact (List.mem_cons.mp inside).elim same absent

theorem get?_append {name : Text} {child : Json} {before : Members} (after : Members)
    (absent : name ∉ before.map Prod.fst) :
    get? name (before ++ (name, child) :: after) = some child := by
  induction before with
  | nil => simp [get?]
  | cons member rest ih =>
    obtain ⟨n, v⟩ := member
    have other : name ≠ n := fun same => absent (by simp [same])
    have later := ih fun inside => absent (List.mem_cons_of_mem n inside)
    rw [get?] at later ⊢
    rw [List.cons_append, List.lookup_cons, beq_false_of_ne other, later]

theorem get?_eq_none {name : Text} {members : Members} (absent : name ∉ members.map Prod.fst) :
    get? name members = none := by
  cases found : get? name members with
  | none => rfl
  | some child =>
    obtain ⟨before, after, rfl, _⟩ := get?_eq_some found
    exact absurd (by simp) absent

theorem erase_sublist (name : Text) (members : Members) :
    (erase name members).Sublist members := by
  induction members with
  | nil => exact .slnil
  | cons member rest ih =>
    obtain ⟨n, v⟩ := member
    rw [erase]
    split
    · exact List.sublist_cons_self _ _
    · exact ih.cons_cons _

theorem notMem_erase_self {name : Text} {members : Members}
    (distinct : (members.map Prod.fst).Nodup) : name ∉ (erase name members).map Prod.fst := by
  by_cases inside : name ∈ members.map Prod.fst
  · obtain ⟨⟨n, child⟩, found, rfl⟩ := List.mem_map.mp inside
    obtain ⟨before, after, rfl⟩ := List.append_of_mem found
    rw [List.map_append, List.map_cons] at distinct
    have others := (List.nodup_middle.mp distinct).notMem
    rw [erase_append after fun left => others (List.mem_append_left _ left), List.map_append]
    exact others
  · rwa [erase_of_notMem inside]

end Json.Members

namespace Removal

open Json

/-- A removal ends with the last part, or it goes on with what the part leads to. -/
private theorem last_or_deeper {rest : List Text} {removed : Json} {deeper : Option Json}
    {put : Json → Json} {left : Json}
    (found : (if rest.isEmpty then some removed else deeper.map put) = some left) :
    (rest = [] ∧ left = removed) ∨
      ∃ inner, rest ≠ [] ∧ deeper = some inner ∧ left = put inner := by
  split at found
  · rename_i last
    cases found
    exact .inl ⟨List.isEmpty_iff.mp last, rfl⟩
  · rename_i more
    obtain ⟨inner, within, rfl⟩ := Option.map_eq_some_iff.mp found
    exact .inr ⟨inner, fun none => more (List.isEmpty_iff.mpr none), within, rfl⟩

/-- What one removal does, with the place that it works on. -/
theorem removeAt?_eq_some {parts : List Text} {value left : Json}
    (removed : removeAt? parts value = some left) :
    (∃ name rest members child, parts = name :: rest ∧ value = object members ∧
      Members.get? name members = some child ∧
      ((rest = [] ∧ left = object (Members.erase name members)) ∨
        ∃ inner, rest ≠ [] ∧ removeAt? rest child = some inner ∧
          left = object (putMember members name inner))) ∨
    ∃ part rest items index item, parts = part :: rest ∧ value = array items ∧
      Text.toIndex? part = some index ∧ items[index]? = some item ∧
      ((rest = [] ∧ left = array (dropItem items index)) ∨
        ∃ inner, rest ≠ [] ∧ removeAt? rest item = some inner ∧
          left = array (putItem items index inner)) := by
  unfold removeAt? at removed
  split at removed
  · cases removed
  · rename_i name rest members
    obtain ⟨child, found, removed⟩ := Option.bind_eq_some_iff.mp removed
    exact .inl ⟨name, rest, members, child, rfl, rfl, found, last_or_deeper removed⟩
  · rename_i part rest items
    obtain ⟨index, numeral, removed⟩ := Option.bind_eq_some_iff.mp removed
    obtain ⟨item, found, removed⟩ := Option.bind_eq_some_iff.mp removed
    exact .inr ⟨part, rest, items, index, item, rfl, rfl, numeral, found, last_or_deeper removed⟩
  · cases removed

/-- An item that is found stands behind as many items as its index says. -/
theorem exists_around {items : List Json} {index : Nat} {item : Json}
    (found : items[index]? = some item) :
    ∃ before after, items = before ++ item :: after ∧ index = before.length := by
  obtain ⟨short, found⟩ := List.getElem?_eq_some_iff.mp found
  refine ⟨items.take index, items.drop (index + 1), ?_, by simp; omega⟩
  rw [← found, List.getElem_cons_drop, List.take_append_drop]

theorem dropItem_append (before after : List Json) (item : Json) :
    dropItem (before ++ item :: after) before.length =
      if after = [] then before else before ++ object [] :: after := by
  unfold dropItem
  by_cases last : after = []
  · simp [last]
  · have some := List.length_pos_iff.mpr last
    rw [List.length_append, List.length_cons, if_neg (by omega), if_neg last]
    simp

/-! ## Soundness -/

theorem mem_dropItem {items : List Json} {index : Nat} {x : Json}
    (inside : x ∈ dropItem items index) : x ∈ items ∨ x = object [] := by
  unfold dropItem at inside
  split at inside
  · exact .inl (List.mem_of_mem_dropLast inside)
  · exact List.mem_or_eq_of_mem_set inside

theorem mem_putItem {items : List Json} {index : Nat} {value x : Json}
    (inside : x ∈ putItem items index value) : x ∈ items ∨ x = object [] ∨ x = value := by
  unfold putItem at inside
  split at inside
  · exact (mem_dropItem inside).imp id .inl
  · exact (List.mem_or_eq_of_mem_set inside).imp id .inr

theorem mem_putMember {members : Members} {name : Text} {value : Json} {x : Text × Json}
    (inside : x ∈ putMember members name value) : x ∈ members ∨ x = (name, value) := by
  unfold putMember at inside
  split at inside
  · exact .inl ((Members.erase_sublist name members).mem inside)
  · exact (Members.mem_insert inside).symm

theorem nodup_erase {members : Members} (distinct : (members.map Prod.fst).Nodup) (name : Text) :
    ((Members.erase name members).map Prod.fst).Nodup :=
  distinct.sublist ((Members.erase_sublist name members).map _)

theorem nodup_putMember {members : Members} (distinct : (members.map Prod.fst).Nodup)
    (name : Text) (value : Json) : ((putMember members name value).map Prod.fst).Nodup := by
  unfold putMember
  split
  · exact nodup_erase distinct name
  · exact Members.nodup_insert _ _ distinct

theorem mem_of_get? {name : Text} {child : Json} {members : Members}
    (found : Members.get? name members = some child) : (name, child) ∈ members := by
  obtain ⟨before, after, rfl, _⟩ := Members.get?_eq_some found
  simp

theorem sound_removeAt? {parts : List Text} {value left : Json} (sound : value.Sound)
    (removed : removeAt? parts value = some left) : left.Sound := by
  induction parts generalizing value left with
  | nil => cases removed
  | cons part rest ih =>
    rcases removeAt?_eq_some removed with
      ⟨_, _, members, child, split, rfl, found, done⟩ |
      ⟨_, _, items, index, item, split, rfl, _, found, done⟩
    · cases split
      cases sound with
      | object distinct values =>
        rcases done with ⟨_, rfl⟩ | ⟨inner, _, deeper, rfl⟩
        · refine .object (nodup_erase distinct _) fun member inside => ?_
          exact values member ((Members.erase_sublist _ _).mem inside)
        · refine .object (nodup_putMember distinct _ _) fun member inside => ?_
          rcases mem_putMember inside with old | rfl
          · exact values member old
          · exact ih (values _ (mem_of_get? found)) deeper
    · cases split
      cases sound with
      | array values =>
        have empty : (object []).Sound := .object List.nodup_nil nofun
        rcases done with ⟨_, rfl⟩ | ⟨inner, _, deeper, rfl⟩
        · refine .array fun x inside => ?_
          rcases mem_dropItem inside with old | rfl
          · exact values x old
          · exact empty
        · refine .array fun x inside => ?_
          rcases mem_putItem inside with old | rfl | rfl
          · exact values x old
          · exact empty
          · exact ih (values _ (List.mem_of_getElem? found)) deeper

theorem sound_removeAt {value : Json} (sound : value.Sound) (parts : List Text) :
    (removeAt parts value).Sound := by
  unfold removeAt
  cases removed : removeAt? parts value with
  | none => exact sound
  | some left => exact sound_removeAt? sound removed

/-- What holds of members and is kept by erasing each of some names holds when all of them are
removed. -/
theorem removeNames_induction {P : Json → Prop} {value : Json} (keys : List Text)
    (start : P value) (step : ∀ members, ∀ key ∈ keys, P (object members) →
      P (object (Members.erase key members))) : P (removeNames keys value) := by
  cases value with
  | object members =>
    rw [removeNames]
    induction keys generalizing members with
    | nil => exact start
    | cons key rest ih =>
      exact ih (fun members key later => step members key (List.mem_cons_of_mem _ later)) _
        (step members key List.mem_cons_self start)
  | _ => exact start

/-- What is kept by each removal is kept by all of them. -/
theorem removeKeys_induction {P : Json → Prop} {value : Json} (keys : List Text) (start : P value)
    (names : ∀ members key, P (object members) → P (object (Members.erase key members)))
    (step : ∀ value parts, P value → P (removeAt parts value)) : P (removeKeys keys value) := by
  have named := removeNames_induction keys start fun members key _ => names members key
  unfold removeKeys
  generalize removeNames keys value = current at named
  induction removalOrder keys generalizing current with
  | nil => exact named
  | cons parts rest ih => exact ih _ (step current parts named)

theorem sound_erase {members : Members} (sound : (object members).Sound) (name : Text) :
    (object (Members.erase name members)).Sound := by
  cases sound with
  | object distinct values =>
    exact .object (nodup_erase distinct name) fun member inside =>
      values member ((Members.erase_sublist _ _).mem inside)

theorem sound_removeNames {value : Json} (sound : value.Sound) (keys : List Text) :
    (removeNames keys value).Sound :=
  removeNames_induction keys sound fun _ key _ sound => sound_erase sound key

/-- Removing keys from a sound value leaves a sound value. -/
theorem sound_removeKeys {value : Json} (sound : value.Sound) (keys : List Text) :
    (removeKeys keys value).Sound :=
  removeKeys_induction keys sound (fun _ key sound => sound_erase sound key)
    fun _ parts sound => sound_removeAt sound parts

/-! ## Doubles -/

theorem doubles_erase_subset (members : Members) (name : Text) :
    (object (Members.erase name members)).doubles ⊆ (object members).doubles := by
  intro x among
  obtain ⟨member, inside, among⟩ := mem_doubles_object.mp among
  exact mem_doubles_object.mpr ⟨member, (Members.erase_sublist _ _).mem inside, among⟩

theorem doubles_removeAt?_subset {parts : List Text} {value left : Json}
    (removed : removeAt? parts value = some left) : left.doubles ⊆ value.doubles := by
  induction parts generalizing value left with
  | nil => cases removed
  | cons part rest ih =>
    intro x among
    rcases removeAt?_eq_some removed with
      ⟨_, _, members, child, split, rfl, found, done⟩ |
      ⟨_, _, items, index, item, split, rfl, _, found, done⟩
    · cases split
      rcases done with ⟨_, rfl⟩ | ⟨inner, _, deeper, rfl⟩
      · exact doubles_erase_subset members _ among
      · obtain ⟨member, inside, here⟩ := mem_doubles_object.mp among
        rcases mem_putMember inside with old | rfl
        · exact mem_doubles_object.mpr ⟨member, old, here⟩
        · exact mem_doubles_object.mpr ⟨_, mem_of_get? found, ih deeper here⟩
    · cases split
      rw [mem_doubles_array]
      rcases done with ⟨_, rfl⟩ | ⟨inner, _, deeper, rfl⟩
      · obtain ⟨y, inside, here⟩ := mem_doubles_array.mp among
        rcases mem_dropItem inside with old | rfl
        · exact ⟨y, old, here⟩
        · cases here
      · obtain ⟨y, inside, here⟩ := mem_doubles_array.mp among
        rcases mem_putItem inside with old | rfl | rfl
        · exact ⟨y, old, here⟩
        · cases here
        · exact ⟨item, List.mem_of_getElem? found, ih deeper here⟩

/-- Removing keys adds no doubles, so what is left is read back if the value is. -/
theorem readsBack_removeKeys {value : Json} (back : value.ReadsBack) (keys : List Text) :
    (removeKeys keys value).ReadsBack := by
  refine removeKeys_induction keys back
    (fun members key back x among => back x (doubles_erase_subset members key among))
    fun current parts back => ?_
  unfold removeAt
  cases removed : removeAt? parts current with
  | none => exact back
  | some left => exact fun x among => back x (doubles_removeAt?_subset removed among)

/-! ## Depth -/

mutual

/-- How deep containers would nest in a value if each item of an array were a container. -/
def reach : Json → Nat
  | array items => reachItems items + 1
  | object members => reachMembers members + 1
  | _ => 0

/-- How deep containers would nest in the items of an array. -/
def reachItems : List Json → Nat
  | [] => 0
  | item :: rest => max (max 1 (reach item)) (reachItems rest)

/-- How deep containers would nest in the members of an object. -/
def reachMembers : List (Text × Json) → Nat
  | [] => 0
  | (_, value) :: rest => max (reach value) (reachMembers rest)

end

theorem reachItems_le {items : List Json} {limit : Nat} :
    reachItems items ≤ limit ↔ ∀ item ∈ items, 1 ≤ limit ∧ reach item ≤ limit := by
  induction items with
  | nil => simp [reachItems]
  | cons item rest ih => simp [reachItems, ih, and_assoc]

theorem reachMembers_le {members : Members} {limit : Nat} :
    reachMembers members ≤ limit ↔ ∀ member ∈ members, reach member.2 ≤ limit := by
  induction members with
  | nil => simp [reachMembers]
  | cons member rest ih => simp [reachMembers, ih]

mutual

theorem depth_le_reach : ∀ value : Json, value.depth ≤ reach value
  | array items => Nat.succ_le_succ (depthItems_le_reach items)
  | object members => Nat.succ_le_succ (depthMembers_le_reach members)
  | .null | .bool _ | .number _ | .string _ => Nat.le_refl 0

private theorem depthItems_le_reach : ∀ items, depthItems items ≤ reachItems items
  | [] => Nat.le_refl 0
  | item :: rest => by
    have first := depth_le_reach item
    have others := depthItems_le_reach rest
    rw [depthItems, reachItems]
    omega

private theorem depthMembers_le_reach : ∀ members, depthMembers members ≤ reachMembers members
  | [] => Nat.le_refl 0
  | (_, value) :: rest => by
    have first := depth_le_reach value
    have others := depthMembers_le_reach rest
    rw [depthMembers, reachMembers]
    omega

end

mutual

theorem reach_le_depth : ∀ value : Json, reach value ≤ value.depth + 1
  | array items => Nat.succ_le_succ (reachItems_le_depth items)
  | object members => Nat.succ_le_succ (reachMembers_le_depth members)
  | .null | .bool _ | .number _ | .string _ => Nat.zero_le _

private theorem reachItems_le_depth : ∀ items, reachItems items ≤ depthItems items + 1
  | [] => Nat.zero_le _
  | item :: rest => by
    have first := reach_le_depth item
    have others := reachItems_le_depth rest
    rw [depthItems, reachItems]
    omega

private theorem reachMembers_le_depth : ∀ members, reachMembers members ≤ depthMembers members + 1
  | [] => Nat.zero_le _
  | (_, value) :: rest => by
    have first := reach_le_depth value
    have others := reachMembers_le_depth rest
    rw [depthMembers, reachMembers]
    omega

end

theorem reach_removeAt? {parts : List Text} {value left : Json} {limit : Nat}
    (within : reach value ≤ limit) (removed : removeAt? parts value = some left) :
    reach left ≤ limit := by
  induction parts generalizing value left limit with
  | nil => cases removed
  | cons part rest ih =>
    rcases removeAt?_eq_some removed with
      ⟨_, _, members, child, split, rfl, found, done⟩ |
      ⟨_, _, items, index, item, split, rfl, _, found, done⟩
    · cases split
      have some : limit ≠ 0 := by
        rw [reach] at within
        omega
      obtain ⟨limit, rfl⟩ := Nat.exists_eq_succ_of_ne_zero some
      have each := reachMembers_le.mp (Nat.le_of_succ_le_succ within)
      rcases done with ⟨_, rfl⟩ | ⟨inner, _, deeper, rfl⟩
      · refine Nat.succ_le_succ (reachMembers_le.mpr fun member inside => ?_)
        exact each member ((Members.erase_sublist _ _).mem inside)
      · refine Nat.succ_le_succ (reachMembers_le.mpr fun member inside => ?_)
        rcases mem_putMember inside with old | rfl
        · exact each member old
        · exact ih (each _ (mem_of_get? found)) deeper
    · cases split
      have some : limit ≠ 0 := by
        rw [reach] at within
        omega
      obtain ⟨limit, rfl⟩ := Nat.exists_eq_succ_of_ne_zero some
      have each := reachItems_le.mp (Nat.le_of_succ_le_succ within)
      have here := each item (List.mem_of_getElem? found)
      have empty : 1 ≤ limit ∧ reach (object []) ≤ limit := ⟨here.1, here.1⟩
      rcases done with ⟨_, rfl⟩ | ⟨inner, _, deeper, rfl⟩
      · refine Nat.succ_le_succ (reachItems_le.mpr fun x inside => ?_)
        rcases mem_dropItem inside with old | rfl
        · exact each x old
        · exact empty
      · refine Nat.succ_le_succ (reachItems_le.mpr fun x inside => ?_)
        rcases mem_putItem inside with old | rfl | rfl
        · exact each x old
        · exact empty
        · exact ⟨here.1, ih here.2 deeper⟩

theorem reach_erase {members : Members} {limit : Nat} (within : reach (object members) ≤ limit)
    (name : Text) : reach (object (Members.erase name members)) ≤ limit := by
  obtain ⟨limit, rfl⟩ := Nat.exists_eq_succ_of_ne_zero (by rw [reach] at within; omega : limit ≠ 0)
  have each := reachMembers_le.mp (Nat.le_of_succ_le_succ within)
  refine Nat.succ_le_succ (reachMembers_le.mpr fun member inside => ?_)
  exact each member ((Members.erase_sublist _ _).mem inside)

theorem reach_removeKeys {value : Json} {limit : Nat} (within : reach value ≤ limit)
    (keys : List Text) : reach (removeKeys keys value) ≤ limit := by
  refine @removeKeys_induction (fun left => reach left ≤ limit) value keys within
    (fun members key within => reach_erase within key) fun current parts within => ?_
  unfold removeAt
  cases removed : removeAt? parts current with
  | none => exact within
  | some left => exact reach_removeAt? within removed

/-- A value nests deeper by one container at most after keys have been removed. -/
theorem depth_removeKeys_le (value : Json) (keys : List Text) :
    (removeKeys keys value).depth ≤ value.depth + 1 :=
  (depth_le_reach _).trans (reach_removeKeys (reach_le_depth value) keys)

/-! ## Nothing to remove -/

theorem removeKeys_nil (value : Json) : removeKeys [] value = value := by
  simp only [removeKeys, removalOrder, List.map_nil, List.mergeSort_nil, List.foldl_nil]
  cases value <;> rfl

end Removal

end LocaleLint
