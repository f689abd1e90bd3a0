import Mathlib
import LocaleLint.Proofs.Language.Editing
import LocaleLint.Proofs.Language.Idempotence
import LocaleLint.Proofs.Language.Pruning

/-!
# Removal in another order and in steps

The removal of keys depends on which keys they are, not on their order or on how often each is
given, for the order of the removals is that of the parts. Without arrays each removal may also
change places with any other one, so keys may be removed in several steps.
-/

namespace LocaleLint

section

variable {α β : Type} {f : β → α → β} {P : β → Prop}
  (keep : ∀ b a, P b → P (f b a))
  (comm : ∀ b a c, P b → f (f b a) c = f (f b c) a)

include keep in
theorem foldl_keeps (l : List α) {b : β} (holds : P b) : P (l.foldl f b) := by
  induction l generalizing b with
  | nil => exact holds
  | cons a rest ih => exact ih (keep b a holds)

include keep comm

theorem foldl_last (l : List α) (a : α) {b : β} (holds : P b) :
    l.foldl f (f b a) = f (l.foldl f b) a := by
  induction l generalizing b with
  | nil => rfl
  | cons c rest ih => rw [List.foldl_cons, comm b a c holds, ih (keep b c holds), List.foldl_cons]

theorem foldl_foldl_comm (l others : List α) {b : β} (holds : P b) :
    l.foldl f (others.foldl f b) = others.foldl f (l.foldl f b) := by
  induction l generalizing b with
  | nil => rfl
  | cons a rest ih =>
    rw [List.foldl_cons, List.foldl_cons, ← foldl_last keep comm others a holds,
      ih (keep b a holds)]

variable (twice : ∀ b a, P b → f (f b a) a = f b a)

include twice

theorem foldl_of_mem {l : List α} {a : α} (listed : a ∈ l) {b : β} (holds : P b) :
    l.foldl f (f b a) = l.foldl f b := by
  obtain ⟨before, after, rfl⟩ := List.append_of_mem listed
  rw [List.foldl_append, List.foldl_append, List.foldl_cons, List.foldl_cons,
    foldl_last keep comm before a holds, twice _ a (foldl_keeps keep before holds)]

theorem foldl_of_subset {l others : List α} (listed : l ⊆ others) {b : β} (holds : P b) :
    l.foldl f (others.foldl f b) = others.foldl f b := by
  induction l with
  | nil => rfl
  | cons a rest ih =>
    obtain ⟨inside, listed⟩ := List.cons_subset.mp listed
    rw [List.foldl_cons, ← foldl_last keep comm others a holds,
      foldl_of_mem keep comm twice inside holds, ih listed]

/-- A fold of steps that may be swapped and repeated depends only on which steps there are. -/
theorem foldl_congr_of_mem_iff {l others : List α} (same : ∀ a, a ∈ l ↔ a ∈ others) {b : β}
    (holds : P b) : l.foldl f b = others.foldl f b :=
  calc l.foldl f b
      = others.foldl f (l.foldl f b) :=
        (foldl_of_subset keep comm twice (fun a => (same a).mpr) holds).symm
    _ = l.foldl f (others.foldl f b) := (foldl_foldl_comm keep comm l others holds).symm
    _ = others.foldl f b := foldl_of_subset keep comm twice (fun a => (same a).mp) holds

end

namespace Json

/-- The values without an array in them. -/
inductive ArrayFree : Json → Prop
  | null : ArrayFree null
  | bool (value : Bool) : ArrayFree (bool value)
  | number (n : Number) : ArrayFree (number n)
  | string (s : Text) : ArrayFree (string s)
  | object {members : Members} (values : ∀ member ∈ members, ArrayFree member.2) :
      ArrayFree (object members)

theorem Sound.distinct {members : Members} (sound : (Json.object members).Sound) :
    (members.map Prod.fst).Nodup := by
  cases sound with
  | object distinct _ => exact distinct

/-- With distinct names each member is the one that is found by its name. -/
theorem Members.get?_of_mem {members : Members} (distinct : (members.map Prod.fst).Nodup)
    {member : Text × Json} (inside : member ∈ members) :
    get? member.1 members = some member.2 := by
  obtain ⟨before, after, rfl⟩ := List.append_of_mem inside
  rw [List.map_append, List.map_cons] at distinct
  exact get?_append after fun left =>
    (List.nodup_middle.mp distinct).notMem (List.mem_append_left _ left)

theorem ArrayFree.of_below {value left : Json} (free : value.ArrayFree) (below : Below left value)
    (sound : left.Sound) : left.ArrayFree := by
  induction below with
  | null | bool _ | number _ | string _ => exact free
  | array _ _ _ => cases free
  | object names each ih =>
    cases free with
    | object values =>
      cases sound with
      | object distinct sounds =>
        refine .object fun member inside => ?_
        have found := Members.get?_of_mem distinct inside
        obtain ⟨old, before⟩ :=
          Members.exists_get? (names.subset (List.mem_map_of_mem (f := Prod.fst) inside))
        exact ih member.1 member.2 old found before (values _ (Removal.mem_of_get? before))
          (sounds member inside)

theorem Members.erase_eq_filter {members : Members} (distinct : (members.map Prod.fst).Nodup)
    (name : Text) : erase name members = members.filter (·.1 ≠ name) := by
  induction members with
  | nil => rfl
  | cons member rest ih =>
    obtain ⟨n, v⟩ := member
    obtain ⟨fresh, distinct⟩ := List.nodup_cons.mp distinct
    rw [erase, List.filter_cons]
    by_cases same : n = name
    · have others : rest.filter (·.1 ≠ name) = rest := by
        refine List.filter_eq_self.mpr fun other inside => decide_eq_true fun clash => fresh ?_
        exact List.mem_map.mpr ⟨other, inside, clash.trans same.symm⟩
      rw [if_pos same, if_neg (by simp [same]), others]
    · rw [if_neg same, if_pos (by simp [same]), ih distinct]

end Json

namespace Removal

open Json (Members ArrayFree)

theorem removeNames_object {members : Members} (distinct : (members.map Prod.fst).Nodup)
    (keys : List Text) :
    removeNames keys (.object members) = .object (members.filter (·.1 ∉ keys)) := by
  rw [removeNames]
  induction keys generalizing members with
  | nil => simp
  | cons key rest ih =>
    rw [List.foldl_cons, ih (nodup_erase distinct key), Members.erase_eq_filter distinct,
      List.filter_filter]
    congr 2
    funext member
    rw [← Bool.decide_and]
    exact decide_eq_decide.mpr (by rw [List.mem_cons, not_or, and_comm])

theorem removeNames_congr {value : Json} (sound : value.Sound) {keys others : List Text}
    (same : ∀ key, key ∈ keys ↔ key ∈ others) :
    removeNames keys value = removeNames others value := by
  cases sound with
  | object distinct _ =>
    rw [removeNames_object distinct, removeNames_object distinct]
    simp only [same]
  | _ => rfl

/-- Removals that are done several times in a row need to be done once only. -/
theorem foldl_dedup {queue : List (List Text)} {value : Json} (sound : value.Sound)
    (ordered : queue.Pairwise fun earlier later => partsLe later earlier = true) :
    queue.dedup.foldl (fun value parts => removeAt parts value) value =
      queue.foldl (fun value parts => removeAt parts value) value := by
  induction queue generalizing value with
  | nil => rfl
  | cons first rest ih =>
    obtain ⟨behind, ordered⟩ := List.pairwise_cons.mp ordered
    by_cases again : first ∈ rest
    · rw [List.dedup_cons_of_mem again, ih sound ordered]
      obtain ⟨next, others, rfl⟩ := List.exists_cons_of_ne_nil (List.ne_nil_of_mem again)
      -- What stands between two equal removals is equal to them.
      have same : next = first := by
        rcases List.mem_cons.mp again with same | later
        · exact same.symm
        · exact isTotalOrder_partsLe.antisymm (behind next List.mem_cons_self)
            ((List.pairwise_cons.mp ordered).1 first later)
      rw [same, List.foldl_cons, List.foldl_cons, List.foldl_cons, removeAt_removeAt sound]
    · rw [List.dedup_cons_of_notMem again, List.foldl_cons, ih (sound_removeAt sound first) ordered,
        List.foldl_cons]

theorem dedup_removalOrder {keys others : List Text} (same : ∀ key, key ∈ keys ↔ key ∈ others) :
    (removalOrder keys).dedup = (removalOrder others).dedup := by
  have ordered : ∀ keys : List Text, (removalOrder keys).dedup.Pairwise
      fun earlier later => partsLe later earlier = true := fun keys =>
    (pairwise_removalOrder keys).sublist (List.dedup_sublist _)
  refine List.Perm.eq_of_pairwise (fun _ _ _ _ => isTotalOrder_partsLe.flip.antisymm)
    (ordered keys) (ordered others) ?_
  refine (List.perm_ext_iff_of_nodup (List.nodup_dedup _) (List.nodup_dedup _)).mpr fun parts => ?_
  rw [List.mem_dedup, List.mem_dedup, mem_removalOrder, mem_removalOrder]
  simp only [same]

theorem removeKeys_congr {value : Json} (sound : value.Sound) {keys others : List Text}
    (same : ∀ key, key ∈ keys ↔ key ∈ others) :
    removeKeys keys value = removeKeys others value := by
  have soundNamed := sound_removeNames sound others
  rw [removeKeys, removeKeys, removeNames_congr sound same,
    ← foldl_dedup soundNamed (pairwise_removalOrder keys), dedup_removalOrder same,
    foldl_dedup soundNamed (pairwise_removalOrder others)]

/-- What a removal leaves of a member: nothing if its name is the last part, or if it is emptied. -/
def trim (rest : List Text) (child : Json) : Option Json :=
  if rest = [] then none
  else if child.isEmptyContainer = false ∧ (removeAt rest child).isEmptyContainer then none
  else some (removeAt rest child)

/-- What a removal leaves of a member of an object. -/
def cut (name : Text) (rest : List Text) (member : Text × Json) : Option (Text × Json) :=
  if member.1 = name then (trim rest member.2).map (member.1, ·) else some member

theorem cut_self (name : Text) (rest : List Text) (child : Json) :
    cut name rest (name, child) = (trim rest child).map (name, ·) := if_pos rfl

theorem cut_of_ne {name : Text} {member : Text × Json} (differs : member.1 ≠ name)
    (rest : List Text) : cut name rest member = some member := if_neg differs

/-- A removal from an object does something to one member only. -/
theorem removeAt_object {members : Members} (distinct : (members.map Prod.fst).Nodup)
    (name : Text) (rest : List Text) :
    removeAt (name :: rest) (.object members) = .object (members.filterMap (cut name rest)) := by
  have kept : ∀ {others : Members}, name ∉ others.map Prod.fst →
      others.filterMap (cut name rest) = others := by
    intro others absent
    conv_rhs => rw [← @List.filterMap_some _ others]
    refine List.filterMap_congr fun member inside => cut_of_ne (fun same => absent ?_) rest
    exact List.mem_map.mpr ⟨member, inside, same⟩
  cases found : Members.get? name members with
  | none =>
    rw [removeAt, removeAt?, found, kept]
    · rfl
    · intro inside
      obtain ⟨child, found'⟩ := Members.exists_get? inside
      cases found.symm.trans found'
  | some child =>
    rw [removeAt, removeAt?, found, Option.bind_some]
    obtain ⟨before, after, rfl, absent⟩ := Members.get?_eq_some found
    have behind : name ∉ after.map Prod.fst := by
      rw [List.map_append, List.map_cons] at distinct
      exact fun inside => (List.nodup_middle.mp distinct).notMem (List.mem_append_right _ inside)
    rw [List.filterMap_append, List.filterMap_cons, cut_self, kept absent, kept behind]
    by_cases last : rest = []
    · rw [if_pos (by simpa using last), trim, if_pos last, Members.erase_append after absent]
      rfl
    rw [if_neg (by simpa using last), trim, if_neg last]
    unfold removeAt
    cases removed : removeAt? rest child with
    | none =>
      rw [Option.getD_none, if_neg fun both => Bool.false_ne_true (both.1.symm.trans both.2)]
      rfl
    | some inner =>
      have filled : child.isEmptyContainer = false := by
        refine Bool.eq_false_iff.mpr fun empty => ?_
        rw [removeAt?_of_isEmptyContainer empty] at removed
        cases removed
      rw [Option.getD_some, Option.map_some, putMember]
      by_cases empty : inner.isEmptyContainer
      · rw [if_pos empty, if_pos ⟨filled, empty⟩, Members.erase_append after absent]
        rfl
      · rw [if_neg empty, if_neg fun both => empty both.2, Members.insert_append inner after absent]
        rfl

theorem removeAt_of_isEmptyContainer {value : Json} (empty : value.isEmptyContainer)
    (parts : List Text) : removeAt parts value = value := by
  rw [removeAt, removeAt?_of_isEmptyContainer empty, Option.getD_none]

theorem trim_nil (child : Json) : trim [] child = none := if_pos rfl

theorem trim_of_isEmptyContainer {rest : List Text} (some : rest ≠ []) {child : Json}
    (empty : child.isEmptyContainer) : trim rest child = .some child := by
  rw [trim, if_neg some, removeAt_of_isEmptyContainer empty, if_neg fun both => ?_]
  simp [empty] at both

theorem trim_of_filled {rest : List Text} (some : rest ≠ []) {child : Json}
    (filled : child.isEmptyContainer = false) : trim rest child =
      if (removeAt rest child).isEmptyContainer then none else .some (removeAt rest child) := by
  rw [trim, if_neg some]
  simp only [filled, true_and]

/-- Two removals from a member may change places if they may change places in its value. -/
theorem trim_comm {first second : List Text} {child : Json}
    (comm : removeAt second (removeAt first child) = removeAt first (removeAt second child)) :
    (trim first child).bind (trim second) = (trim second child).bind (trim first) := by
  by_cases none : first = []
  · subst none
    rw [trim_nil, Option.bind_none, Option.bind_eq_none_iff.mpr fun left _ => trim_nil left]
  by_cases none' : second = []
  · subst none'
    rw [trim_nil, Option.bind_none, Option.bind_eq_none_iff.mpr fun left _ => trim_nil left]
  by_cases empty : child.isEmptyContainer
  · rw [trim_of_isEmptyContainer none empty, trim_of_isEmptyContainer none' empty,
      Option.bind_some, Option.bind_some, trim_of_isEmptyContainer none empty,
      trim_of_isEmptyContainer none' empty]
  have filled : child.isEmptyContainer = false := Bool.eq_false_iff.mpr empty
  rw [trim_of_filled none filled, trim_of_filled none' filled]
  -- What one of them empties the other one leaves empty.
  by_cases one : (removeAt first child).isEmptyContainer
  · have both : removeAt first (removeAt second child) = removeAt first child := by
      rw [← comm, removeAt_of_isEmptyContainer one]
    rw [if_pos one, Option.bind_none]
    split
    · rfl
    · rename_i other
      rw [Option.bind_some, trim_of_filled none (Bool.eq_false_iff.mpr other), both, if_pos one]
  rw [if_neg one, Option.bind_some, trim_of_filled none' (Bool.eq_false_iff.mpr one), comm]
  by_cases other : (removeAt second child).isEmptyContainer
  · rw [if_pos other, removeAt_of_isEmptyContainer other, if_pos other, Option.bind_none]
  · rw [if_neg other, Option.bind_some, trim_of_filled none (Bool.eq_false_iff.mpr other)]

theorem cut_comm {name other : Text} {first second : List Text} {member : Text × Json}
    (comm : removeAt second (removeAt first member.2) = removeAt first (removeAt second member.2)) :
    (cut name first member).bind (cut other second) =
      (cut other second member).bind (cut name first) := by
  obtain ⟨word, child⟩ := member
  have aside : ∀ {name other : Text} {first second : List Text}, word = name → word ≠ other →
      (cut name first (word, child)).bind (cut other second) = cut name first (word, child) := by
    rintro name other first second rfl differs
    rw [cut_self]
    cases trim first child with
    | none => rfl
    | some left => exact cut_of_ne differs second
  by_cases one : word = name
  · by_cases two : word = other
    · subst one two
      have each (rest : List Text) : cut word rest ∘ (word, ·) = Option.map (word, ·) ∘ trim rest :=
        funext (cut_self word rest)
      rw [cut_self, cut_self, Option.bind_map, Option.bind_map, each, each, ← Option.map_bind,
        ← Option.map_bind, trim_comm comm]
    · rw [aside one two, cut_of_ne two second, Option.bind_some]
  · by_cases two : word = other
    · rw [aside two one, cut_of_ne one first, Option.bind_some]
    · rw [cut_of_ne one first, cut_of_ne two second, Option.bind_some, Option.bind_some,
        cut_of_ne one first, cut_of_ne two second]

/-- Without arrays two removals may change places. -/
theorem removeAt_comm {value : Json} (free : value.ArrayFree) (sound : value.Sound)
    (first second : List Text) :
    removeAt second (removeAt first value) = removeAt first (removeAt second value) := by
  induction free generalizing first second with
  | @object members values ih =>
    cases first with
    | nil => rw [removeAt_nil, removeAt_nil]
    | cons name rest =>
      cases second with
      | nil => rw [removeAt_nil, removeAt_nil]
      | cons other later =>
        have left := sound_removeAt sound (name :: rest)
        have left' := sound_removeAt sound (other :: later)
        rw [removeAt_object sound.distinct] at left left' ⊢
        rw [removeAt_object sound.distinct other later, removeAt_object left.distinct,
          removeAt_object left'.distinct, List.filterMap_filterMap, List.filterMap_filterMap]
        congr 1
        cases sound with
        | object _ sounds =>
          exact List.filterMap_congr fun member inside =>
            cut_comm (ih member inside (sounds member inside) rest later)
  | null | bool _ | number _ | string _ =>
    cases first <;> cases second <;> rfl

/-- A removal of keys is one removal for each name and one for the parts of each key. -/
theorem removeKeys_eq_foldl {value : Json} (free : value.ArrayFree) (keys : List Text) :
    removeKeys keys value = (keys.map ([·]) ++ removalOrder keys).foldl
      (fun value parts => removeAt parts value) value := by
  rw [removeKeys, List.foldl_append, List.foldl_map]
  congr 1
  cases free with
  | @object members values =>
    clear values
    rw [removeNames]
    induction keys generalizing members with
    | nil => rfl
    | cons key rest ih => rw [List.foldl_cons, List.foldl_cons, ih, removeAt_singleton]
  | null | bool _ | number _ | string _ =>
    induction keys with
    | nil => rfl
    | cons key rest ih => exact ih

/-- Without arrays keys may be removed in two steps. -/
theorem removeKeys_append {value : Json} (free : value.ArrayFree) (sound : value.Sound)
    (keys others : List Text) :
    removeKeys others (removeKeys keys value) = removeKeys (keys ++ others) value := by
  have left := leftOf_removeKeys sound keys
  rw [removeKeys_eq_foldl (free.of_below left.below left.sound) others,
    removeKeys_eq_foldl free keys, removeKeys_eq_foldl free (keys ++ others), ← List.foldl_append]
  have keep : ∀ (value : Json) (parts : List Text), value.ArrayFree ∧ value.Sound →
      (removeAt parts value).ArrayFree ∧ (removeAt parts value).Sound := by
    rintro value parts ⟨free, sound⟩
    have left := (LeftOf.refl sound).removeAt parts
    exact ⟨free.of_below left.below left.sound, left.sound⟩
  refine foldl_congr_of_mem_iff keep (fun _ first second kept => ?_) (fun _ parts kept => ?_)
    (fun parts => ?_) ⟨free, sound⟩
  · exact removeAt_comm kept.1 kept.2 first second
  · exact removeAt_removeAt kept.2 parts
  · simp only [List.mem_append, List.map_append, mem_removalOrder, or_and_right, exists_or]
    exact or_or_or_comm

end Removal

namespace Editor

/-- The removal of keys depends only on which keys they are. Without arrays it does not matter
either in how many steps they are removed. -/
theorem removeKeys_of_same {value : Json} (sound : value.Sound) :
    (∀ keys others : List Text, (∀ key, key ∈ keys ↔ key ∈ others) →
      Removal.removeKeys keys value = Removal.removeKeys others value) ∧
    (value.ArrayFree → ∀ (source : Text) (steps : List (List Text)),
      removeAll ⟨source, value⟩ steps = removeKeys ⟨source, value⟩ steps.flatten) := by
  refine ⟨fun keys others same => Removal.removeKeys_congr sound same,
    fun free source steps => ?_⟩
  unfold removeAll
  induction steps generalizing value with
  | nil => rw [List.foldl_nil, List.flatten_nil, removeKeys, Removal.removeKeys_nil]
  | cons keys rest ih =>
    have left := Removal.leftOf_removeKeys sound keys
    rw [List.foldl_cons, removeKeys, ih left.sound (free.of_below left.below left.sound),
      removeKeys, removeKeys, Removal.removeKeys_append free sound, List.flatten_cons]

/-- Menus with a member whose name has a dot and an empty menu. -/
def menus : Json :=
  .object [("A.B".toList, .string "x".toList),
    ("A".toList, .object [("B".toList, .string "y".toList),
      ("C".toList, .object [("D".toList, .string "z".toList)])]),
    ("E".toList, .object [])]

theorem sound_menus : menus.Sound := by
  have read : Json.ofText menus.compact = .ok menus := by cbv
  exact (Json.sound_of_ofText read).1

theorem arrayFree_menus : menus.ArrayFree := by
  refine .object fun member inside => ?_
  simp only [List.mem_cons, List.not_mem_nil, or_false] at inside
  rcases inside with rfl | rfl | rfl
  · exact .string _
  · refine .object fun member inside => ?_
    rcases List.mem_pair.mp inside with rfl | rfl
    · exact .string _
    · refine .object fun member inside => ?_
      cases List.mem_singleton.mp inside
      exact .string _
  · exact .object nofun

/-- Keys in another order and twice, and in steps of which the first one empties nothing. -/
theorem removeKeys_of_same_menus :
    let keys := ["A.B".toList, "A.C.D".toList]
    let others := ["A.C.D".toList, "A.B".toList, "A.C.D".toList]
    menus.Sound ∧ menus.ArrayFree ∧ (∀ key, key ∈ keys ↔ key ∈ others) ∧
      Removal.removeKeys others menus = .object [("E".toList, .object [])] ∧
      Removal.removeKeys keys menus = Removal.removeKeys others menus ∧
      removeAll ⟨[], menus⟩ [["A.C.D".toList], ["A.B".toList, "A.C.D".toList]] =
        removeKeys ⟨[], menus⟩ others := by
  intro keys others
  obtain ⟨congr, steps⟩ := removeKeys_of_same sound_menus
  have same : ∀ key, key ∈ keys ↔ key ∈ others := by
    intro key
    simp only [keys, others, List.mem_cons, List.not_mem_nil, or_false]
    tauto
  exact ⟨sound_menus, arrayFree_menus, same, by cbv, congr keys others same,
    steps arrayFree_menus [] [["A.C.D".toList], ["A.B".toList, "A.C.D".toList]]⟩

/-- In an array an item that is emptied in front of another one keeps its place, unless the other one
goes in the same step. -/
example : let value := Json.array [.null, .null]
    Removal.removeKeys ["0".toList, "1".toList] value = .array [] ∧
      Removal.removeKeys ["1".toList] (Removal.removeKeys ["0".toList] value) =
        .array [.object []] :=
  ⟨by cbv, by cbv⟩

end Editor

end LocaleLint
