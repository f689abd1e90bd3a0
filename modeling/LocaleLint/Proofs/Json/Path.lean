import Mathlib
import LocaleLint.Json.Basic

/-!
# Paths

A path leads from a JSON value to one of the values in it, by the names of members and the indices
of items.
-/

namespace LocaleLint.Json

/-- One step into a value. -/
inductive Step where
  | name (word : Text)
  | index (i : Nat)
deriving Repr, DecidableEq

/-- A step as it is written in a key. -/
def Step.text : Step → Text
  | .name word => word
  | .index i => Text.ofNat i

/-- Where a step leads. -/
def step? : Step → Json → Option Json
  | .name word, object members => Members.get? word members
  | .index i, array items => items[i]?
  | _, _ => none

/-- Where a path leads. -/
def at? : List Step → Json → Option Json
  | [], value => some value
  | step :: rest, value => (step? step value).bind (at? rest)

/-- A step leads from an object to a member or from an array to an item. -/
theorem step?_eq_some {step : Step} {value child : Json} (found : step? step value = some child) :
    (∃ word members, step = .name word ∧ value = object members ∧
      Members.get? word members = some child) ∨
    ∃ i items, step = .index i ∧ value = array items ∧ items[i]? = some child := by
  unfold step? at found
  split at found
  · exact .inl ⟨_, _, rfl, rfl, found⟩
  · exact .inr ⟨_, _, rfl, rfl, found⟩
  · cases found

/-- A path that goes on from a value leads into a container that is not empty. -/
theorem isEmptyContainer_of_at? {step : Step} {rest : List Step} {value target : Json}
    (found : at? (step :: rest) value = some target) : value.isEmptyContainer = false := by
  obtain ⟨child, first, _⟩ := Option.bind_eq_some_iff.mp found
  rcases step?_eq_some first with
    ⟨word, members, rfl, rfl, inside⟩ | ⟨i, items, rfl, rfl, inside⟩
  · cases members with
    | nil => cases inside
    | cons member rest => rfl
  · cases items with
    | nil => cases inside
    | cons item rest => rfl

end LocaleLint.Json
