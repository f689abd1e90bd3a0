import Mathlib
import LocaleLint.Proofs.Language.Removal

/-!
# The weight of a value

Removing keys leaves a value as it is or makes it lighter. An empty object that takes the place of
an item counts less than whatever stood there, so a change is seen even where the number of values
stays the same. No value weighs more than twice the number of values in it.
-/

namespace LocaleLint

namespace Json

mutual

/-- The number of values that a value is made of, with itself. -/
def count : Json → Nat
  | array items => countItems items + 1
  | object members => countMembers members + 1
  | _ => 1

/-- The number of values in the items of an array. -/
def countItems : List Json → Nat
  | [] => 0
  | item :: rest => count item + countItems rest

/-- The number of values in the members of an object. -/
def countMembers : List (Text × Json) → Nat
  | [] => 0
  | (_, value) :: rest => count value + countMembers rest

end

mutual

/-- The weight of a value: two for each value in it, but only one for an empty object. -/
def weight : Json → Nat
  | array items => weightItems items + 2
  | object members => weightMembers members + if members.isEmpty then 1 else 2
  | _ => 2

def weightItems : List Json → Nat
  | [] => 0
  | item :: rest => weight item + weightItems rest

def weightMembers : List (Text × Json) → Nat
  | [] => 0
  | (_, value) :: rest => weight value + weightMembers rest

end

theorem weight_pos (value : Json) : 0 < value.weight := by
  cases value with
  | object members =>
    rw [weight]
    split <;> omega
  | array items => exact Nat.succ_pos _
  | _ => exact Nat.two_pos

mutual

theorem weight_le : ∀ value : Json, value.weight ≤ 2 * value.count
  | array items => by
    have inside := weightItems_le items
    rw [weight, count]
    omega
  | object members => by
    have inside := weightMembers_le members
    rw [weight, count]
    split <;> omega
  | .null | .bool _ | .number _ | .string _ => Nat.le_refl 2

private theorem weightItems_le : ∀ items, weightItems items ≤ 2 * countItems items
  | [] => Nat.le_refl 0
  | item :: rest => by
    have first := weight_le item
    have others := weightItems_le rest
    rw [weightItems, countItems]
    omega

private theorem weightMembers_le : ∀ members, weightMembers members ≤ 2 * countMembers members
  | [] => Nat.le_refl 0
  | (_, value) :: rest => by
    have first := weight_le value
    have others := weightMembers_le rest
    rw [weightMembers, countMembers]
    omega

end

@[simp] theorem weightItems_append (before after : List Json) :
    weightItems (before ++ after) = weightItems before + weightItems after := by
  induction before with
  | nil => simp [weightItems]
  | cons item rest ih => simp [weightItems, ih, Nat.add_assoc]

@[simp] theorem weightMembers_append (before after : Members) :
    weightMembers (before ++ after) = weightMembers before + weightMembers after := by
  induction before with
  | nil => simp [weightMembers]
  | cons member rest ih => simp [weightMembers, ih, Nat.add_assoc]

theorem weight_around (before after : Members) (name : Text) (child : Json) :
    (object (before ++ (name, child) :: after)).weight =
      weightMembers before + (child.weight + weightMembers after) + 2 := by
  simp [weight, weightMembers]

/-- Anything but an empty object weighs more than one. -/
theorem one_lt_weight {value : Json} (other : value ≠ object []) : 1 < value.weight := by
  cases value with
  | object members =>
    have some : members.isEmpty = false := by
      cases members with
      | nil => exact absurd rfl other
      | cons member rest => rfl
    rw [weight, some]
    exact Nat.le_add_left ..
  | array items => exact Nat.le_add_left ..
  | _ => exact Nat.one_lt_two

/-- A value is another one or weighs less. -/
def Shrinks (left value : Json) : Prop := left = value ∨ left.weight < value.weight

theorem Shrinks.trans {first second third : Json} (onward : second.Shrinks third)
    (start : first.Shrinks second) : first.Shrinks third := by
  rcases start with rfl | start
  · exact onward
  · rcases onward with rfl | onward
    · exact .inr start
    · exact .inr (start.trans onward)

theorem shrinks_erase (name : Text) (members : Members) :
    (object (Members.erase name members)).Shrinks (object members) := by
  by_cases present : name ∈ members.map Prod.fst
  · obtain ⟨child, found⟩ : ∃ child, Members.get? name members = some child := by
      obtain ⟨member, inside, rfl⟩ := List.mem_map.mp present
      cases found : Members.get? member.1 members with
      | some child => exact ⟨child, rfl⟩
      | none => simpa using List.lookup_eq_none_iff.mp found _ inside
    obtain ⟨before, after, rfl, absent⟩ := Members.get?_eq_some found
    right
    have lost := weight_pos child
    rw [Members.erase_append after absent, weight_around, weight, weightMembers_append]
    split <;> omega
  · exact .inl (by rw [Members.erase_of_notMem present])

theorem shrinks_insert {name : Text} {child inner : Json} {members : Members}
    (found : Members.get? name members = some child) (shrinks : inner.Shrinks child) :
    (object (Members.insert name inner members)).Shrinks (object members) := by
  obtain ⟨before, after, rfl, absent⟩ := Members.get?_eq_some found
  rw [Members.insert_append inner after absent]
  rcases shrinks with rfl | lighter
  · exact .inl rfl
  · right
    rw [weight_around, weight_around]
    omega

theorem shrinks_set {before after : List Json} {item inner : Json} (shrinks : inner.Shrinks item) :
    (array (before ++ inner :: after)).Shrinks (array (before ++ item :: after)) := by
  rcases shrinks with rfl | lighter
  · exact .inl rfl
  · right
    simp only [weight, weightItems_append, weightItems]
    omega

end Json

namespace Removal

open Json

theorem shrinks_dropItem {items : List Json} {index : Nat} {item : Json}
    (found : items[index]? = some item) :
    (array (dropItem items index)).Shrinks (array items) := by
  obtain ⟨before, after, rfl, rfl⟩ := exists_around found
  rw [dropItem_append]
  split
  · right
    have lost := weight_pos item
    simp only [weight, weightItems_append, weightItems]
    omega
  · apply shrinks_set
    by_cases same : item = object []
    · exact .inl same.symm
    · exact .inr (one_lt_weight same)

/-- One removal leaves a value as it is, or makes it lighter. -/
theorem shrinks_removeAt? {parts : List Text} {value left : Json}
    (removed : removeAt? parts value = some left) : left.Shrinks value := by
  induction parts generalizing value left with
  | nil => cases removed
  | cons part rest ih =>
    rcases removeAt?_eq_some removed with
      ⟨name, _, members, child, split, rfl, found, done⟩ |
      ⟨_, _, items, index, item, split, rfl, _, found, done⟩
    · cases split
      rcases done with ⟨-, rfl⟩ | ⟨inner, -, deeper, rfl⟩
      · exact shrinks_erase _ members
      · unfold putMember
        split
        · exact shrinks_erase _ members
        · exact shrinks_insert found (ih deeper)
    · cases split
      rcases done with ⟨-, rfl⟩ | ⟨inner, -, deeper, rfl⟩
      · exact shrinks_dropItem found
      · unfold putItem
        split
        · exact shrinks_dropItem found
        · obtain ⟨before, after, rfl, rfl⟩ := exists_around found
          rw [List.set_append_right _ _ (Nat.le_refl _), Nat.sub_self]
          exact shrinks_set (ih deeper)

/-- Removing keys leaves a value as it is, or makes it lighter. -/
theorem shrinks_removeKeys (keys : List Text) (value : Json) :
    (removeKeys keys value).Shrinks value := by
  refine @removeKeys_induction (·.Shrinks value) value keys (.inl rfl)
    (fun members key before => before.trans (shrinks_erase key members))
    fun current parts before => before.trans ?_
  unfold removeAt
  cases removed : removeAt? parts current with
  | none => exact .inl rfl
  | some left => exact shrinks_removeAt? removed

end Removal

end LocaleLint
