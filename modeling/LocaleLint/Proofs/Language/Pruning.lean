import Mathlib
import LocaleLint.Proofs.Language.Exactness

/-!
# What removal keeps

Removing keys leaves a value that is below the first one: nothing is added or moved, and an object
keeps the order of its members. A container that a removal empties goes as well, or gives way to an
empty object if it is an item, so an empty member of what is left was empty before. An empty
container stays if no key leads to it or above it.
-/

namespace LocaleLint

namespace Json

/-- A value with parts taken out: members anywhere, items at the end of an array, and an empty
object in the place of any item. Objects are compared by name, which says all if their names are
distinct. -/
inductive Below : Json → Json → Prop
  | null : Below null null
  | bool (value : Bool) : Below (bool value) (bool value)
  | number (n : Number) : Below (number n) (number n)
  | string (s : Text) : Below (string s) (string s)
  | array {left items : List Json} (short : left.length ≤ items.length)
      (each : ∀ (i : Nat) (item old : Json), left[i]? = some item → items[i]? = some old →
        item ≠ object [] → Below item old) :
      Below (array left) (array items)
  | object {left members : Members}
      (names : (left.map Prod.fst).Sublist (members.map Prod.fst))
      (each : ∀ (name : Text) (value old : Json), Members.get? name left = some value →
        Members.get? name members = some old → Below value old) :
      Below (object left) (object members)

theorem Members.exists_get? {name : Text} {members : Members}
    (inside : name ∈ members.map Prod.fst) : ∃ value, get? name members = some value := by
  induction members with
  | nil => cases inside
  | cons member rest ih =>
    obtain ⟨n, v⟩ := member
    rw [get?_cons]
    split
    · exact ⟨v, rfl⟩
    · rename_i other
      exact ih ((List.mem_cons.mp inside).resolve_left other)

theorem Below.refl {value : Json} (sound : value.Sound) : Below value value := by
  induction sound with
  | null => exact .null
  | bool value => exact .bool value
  | number _ => exact .number _
  | string s => exact .string s
  | array _ ih =>
    refine .array (Nat.le_refl _) fun i item old here there _ => ?_
    cases here.symm.trans there
    exact ih item (List.mem_of_getElem? here)
  | object _ _ ih =>
    refine .object (List.Sublist.refl _) fun name value old here there => ?_
    cases here.symm.trans there
    exact ih _ (Removal.mem_of_get? here)

theorem Below.eq_empty {value : Json} (below : Below value (.object [])) : value = .object [] := by
  cases below with
  | object names _ => rw [List.map_eq_nil_iff.mp (List.sublist_nil.mp names)]

theorem Below.trans {first second third : Json} (below : Below first second)
    (onward : Below second third) : Below first third := by
  induction below generalizing third with
  | null | bool _ | number _ | string _ => exact onward
  | @array left items short each ih =>
    cases onward with
    | array short' each' =>
      refine .array (short.trans short') fun i item old here there filled => ?_
      have inside : i < items.length := (List.getElem?_eq_some_iff.mp here).1.trans_le short
      have between : items[i]? = some items[i] := List.getElem?_eq_getElem inside
      refine ih i item _ here between filled (each' i _ old between there fun empty => filled ?_)
      have below := each i item _ here between filled
      rw [empty] at below
      exact below.eq_empty
  | object names each ih =>
    cases onward with
    | object names' each' =>
      refine .object (names.trans names') fun name value old here there => ?_
      have inside := names.subset (List.mem_map_of_mem (f := Prod.fst) (Removal.mem_of_get? here))
      obtain ⟨middle, between⟩ := Members.exists_get? inside
      exact ih name value middle here between (each' name middle old between there)

end Json

namespace Removal

open Json (Members Step at? step? Below)

theorem names_putMember_sublist {name : Text} {members : Members}
    (inside : name ∈ members.map Prod.fst) (value : Json) :
    ((putMember members name value).map Prod.fst).Sublist (members.map Prod.fst) := by
  unfold putMember
  split
  · exact (Members.erase_sublist name members).map _
  · rw [Members.map_fst_insert, if_pos inside]

/-- What is left of an object is an object with some of its names. -/
theorem removeAt?_object {parts : List Text} {members : Members} {left : Json}
    (removed : removeAt? parts (.object members) = some left) :
    ∃ others, left = .object others ∧
      (others.map Prod.fst).Sublist (members.map Prod.fst) := by
  rcases removeAt?_eq_some removed with
    ⟨_, _, _, _, _, same, inside, ⟨_, rfl⟩ | ⟨_, _, _, rfl⟩⟩ | ⟨_, _, _, _, _, _, same, _⟩
  · cases same
    exact ⟨_, rfl, (Members.erase_sublist _ _).map _⟩
  · cases same
    have named := List.mem_map_of_mem (f := Prod.fst) (mem_of_get? inside)
    exact ⟨_, rfl, names_putMember_sublist named _⟩
  · cases same

/-- A removal leaves a value below. -/
theorem below_removeAt? {parts : List Text} {value left : Json} (sound : value.Sound)
    (removed : removeAt? parts value = some left) : Below left value := by
  induction sound generalizing parts left with
  | @array items values ih =>
    obtain ⟨others, rfl, short⟩ := removeAt?_array removed
    refine .array short fun i item old here there filled => ?_
    have first : step? (.index i) (.array others) = some item := here
    obtain ⟨old', before, origin⟩ := exists_step_of_removeAt? (.array values) removed first
    cases before.symm.trans there
    rcases origin with rfl | ⟨empty, _⟩ | ⟨rest, deeper, _⟩
    · exact .refl (values _ (List.mem_of_getElem? there))
    · exact absurd empty filled
    · exact ih _ (List.mem_of_getElem? there) deeper
  | @object members distinct values ih =>
    obtain ⟨others, rfl, names⟩ := removeAt?_object removed
    refine .object names fun name child old here there => ?_
    have first : step? (.name name) (.object others) = some child := here
    obtain ⟨old', before, origin⟩ :=
      exists_step_of_removeAt? (.object distinct values) removed first
    cases before.symm.trans there
    rcases origin with rfl | ⟨_, i, other⟩ | ⟨rest, deeper, _⟩
    · exact .refl (values _ (mem_of_get? there))
    · cases other
    · exact ih _ (mem_of_get? there) deeper
  | _ => rcases removeAt?_eq_some removed with
      ⟨_, _, _, _, _, same, _⟩ | ⟨_, _, _, _, _, _, same, _⟩ <;> cases same

/-- A member that is empty after a removal was the same empty container before. -/
theorem at?_of_removeAt? {parts : List Text} {path : List Step} {word : Text}
    {value left empty : Json} (sound : value.Sound) (removed : removeAt? parts value = some left)
    (hollow : empty.isEmptyContainer) (found : at? (path ++ [.name word]) left = some empty) :
    at? (path ++ [.name word]) value = some empty := by
  induction path generalizing parts value left with
  | nil =>
    obtain ⟨child, first, same⟩ := Option.bind_eq_some_iff.mp found
    cases same
    obtain ⟨old, before, origin⟩ := exists_step_of_removeAt? sound removed first
    rcases origin with rfl | ⟨_, i, other⟩ | ⟨_, _, filled⟩
    · exact Option.bind_eq_some_iff.mpr ⟨_, before, rfl⟩
    · cases other
    · rw [hollow] at filled
      cases filled
  | cons step path ih =>
    obtain ⟨child, first, later⟩ := Option.bind_eq_some_iff.mp found
    obtain ⟨old, before, origin⟩ := exists_step_of_removeAt? sound removed first
    refine Option.bind_eq_some_iff.mpr ⟨old, before, ?_⟩
    rcases origin with rfl | ⟨rfl, _⟩ | ⟨rest, deeper, _⟩
    · exact later
    · obtain ⟨next, others, split⟩ := List.exists_cons_of_ne_nil
        (List.append_ne_nil_of_right_ne_nil path (List.cons_ne_nil (Step.name word) []))
      rw [List.append_eq, split] at later
      cases Json.isEmptyContainer_of_at? later
    · exact ih (sound_step? sound before) deeper later

/-- Taking a name out is the removal along that name alone. -/
theorem removeAt_singleton (name : Text) (members : Members) :
    removeAt [name] (.object members) = .object (Members.erase name members) := by
  unfold removeAt removeAt?
  cases found : Members.get? name members with
  | some child => rfl
  | none =>
    rw [Members.erase_of_notMem fun inside => ?_]
    · rfl
    · obtain ⟨child, found'⟩ := Members.exists_get? inside
      cases found.symm.trans found'

/-- A value is left by removals: it is below, and its empty members were empty before. -/
structure LeftOf (value left : Json) : Prop where
  sound : left.Sound
  below : Below left value
  hollow : ∀ path word (empty : Json), empty.isEmptyContainer →
    at? (path ++ [.name word]) left = some empty → at? (path ++ [.name word]) value = some empty

theorem LeftOf.refl {value : Json} (sound : value.Sound) : LeftOf value value :=
  ⟨sound, .refl sound, fun _ _ _ _ found => found⟩

theorem LeftOf.removeAt {value current : Json} (before : LeftOf value current)
    (parts : List Text) : LeftOf value (removeAt parts current) := by
  unfold Removal.removeAt
  cases removed : removeAt? parts current with
  | none => exact before
  | some left =>
    exact ⟨sound_removeAt? before.sound removed,
      (below_removeAt? before.sound removed).trans before.below,
      fun path word empty hollow found =>
        before.hollow path word empty hollow (at?_of_removeAt? before.sound removed hollow found)⟩

theorem leftOf_removeKeys {value : Json} (sound : value.Sound) (keys : List Text) :
    LeftOf value (removeKeys keys value) := by
  refine removeKeys_induction keys (.refl sound) (fun members key before => ?_)
    fun current parts before => before.removeAt parts
  rw [← removeAt_singleton]
  exact before.removeAt [key]

/-- An empty container that no key leads to, nor above it, stays. -/
theorem at?_removeKeys_of_empty {keys : List Text} {path : List Step} {value empty : Json}
    (hollow : empty.isEmptyContainer) (found : at? path value = some empty)
    (others : ∀ key ∈ keys, path.head? ≠ some (.name key))
    (apart : ∀ key ∈ keys, ∀ above, above <+: path → ¬ Leads (partsOf key) above) :
    at? path (removeKeys keys value) = some empty := by
  have named : at? path (removeNames keys value) = some empty := by
    refine removeNames_induction (P := fun value => at? path value = some empty) keys found
      fun members key listed reached => ?_
    rw [← removeAt_singleton]
    refine at?_removeAt_of_apart (fun above below leads => ?_) (.inl hollow) reached
    obtain ⟨step, _, spelled, none, rfl⟩ := List.forall₂_cons_left_iff.mp leads
    cases List.forall₂_nil_left_iff.mp none
    obtain ⟨rest, rfl⟩ := below
    obtain ⟨child, first, _⟩ := Option.bind_eq_some_iff.mp reached
    obtain ⟨word, _, rfl, _, _⟩ :=
      (Json.step?_eq_some first).resolve_right fun ⟨_, _, _, other, _⟩ => nomatch other
    cases spelled
    exact others _ listed rfl
  unfold removeKeys
  have each : ∀ parts ∈ removalOrder keys, ∀ above, above <+: path → ¬ Leads parts above := by
    intro parts inside
    obtain ⟨key, listed, rfl⟩ := mem_removalOrder.mp inside
    exact apart key listed
  generalize removalOrder keys = queue at each
  generalize removeNames keys value = current at named
  induction queue generalizing current with
  | nil => exact named
  | cons parts rest ih =>
    obtain ⟨first, later⟩ := List.forall_mem_cons.mp each
    exact ih later _ (at?_removeAt_of_apart first (.inl hollow) named)

/-- Removing keys only takes out. What is left is below the value, a member that is empty then was
the same empty container before, and an empty container stays where it is unless a key leads to it
or above it. -/
theorem removeKeys_below {value : Json} (sound : value.Sound) (keys : List Text) :
    Below (removeKeys keys value) value ∧
      (∀ path word (empty : Json), empty.isEmptyContainer →
        at? (path ++ [.name word]) (removeKeys keys value) = some empty →
        at? (path ++ [.name word]) value = some empty) ∧
      ∀ path (empty : Json), empty.isEmptyContainer → at? path value = some empty →
        (∀ key ∈ keys, path.head? ≠ some (.name key)) →
        (∀ key ∈ keys, ∀ above, above <+: path → ¬ Leads (partsOf key) above) →
        at? path (removeKeys keys value) = some empty := by
  have left := leftOf_removeKeys sound keys
  refine ⟨left.below, left.hollow, fun path empty hollow found others apart => ?_⟩
  exact at?_removeKeys_of_empty hollow found others apart

/-- Sections with empty containers in them, beside sections that can be emptied. -/
def sections : Json :=
  .object [("A".toList, .object [("B".toList, .string "x".toList), ("C".toList, .object [])]),
    ("D".toList, .object [("E".toList, .string "y".toList)]),
    ("L".toList, .array [.object [("Q".toList, .string "a".toList)], .array [], .null])]

theorem sound_sections : sections.Sound := by
  have read : Json.ofText sections.compact = .ok sections := by cbv
  exact (Json.sound_of_ofText read).1

/-- The emptied section goes, the empty one stays, and the emptied item keeps its place. -/
theorem removeKeys_below_sections :
    let keys := ["A.B".toList, "D.E".toList, "L.0.Q".toList]
    let path := [Step.name "A".toList, .name "C".toList]
    sections.Sound ∧ Below (removeKeys keys sections) sections ∧
      at? [.name "D".toList] (removeKeys keys sections) = none ∧
      at? [.name "L".toList, .index 0] (removeKeys keys sections) = some (.object []) ∧
      at? path sections = some (.object []) ∧
      at? path (removeKeys keys sections) = some (.object []) := by
  intro keys path
  obtain ⟨below, hollow, stays⟩ := removeKeys_below sound_sections keys
  have kept : at? path (removeKeys keys sections) = some (.object []) := by
    refine stays path (.object []) rfl rfl (by decide) fun key listed above prefixed => ?_
    have apart : ∀ key ∈ keys, ∀ above ∈ path.inits, ¬ Leads (partsOf key) above := by
      decide +kernel
    exact apart key listed above ((List.mem_inits above path).mpr prefixed)
  refine ⟨sound_sections, below, by cbv, by cbv, ?_, kept⟩
  exact hollow [.name "A".toList] _ _ rfl kept

end Removal

end LocaleLint
