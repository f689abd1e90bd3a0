import Mathlib
import LocaleLint.Json.Printer
import LocaleLint.Proofs.Json.Path
import LocaleLint.Proofs.Language.Order
import LocaleLint.Proofs.Language.Plain

/-!
# What removal reaches

Removing keys takes out what the parts of the keys lead to, except for an empty object that keeps
the place of an item, and it changes nothing elsewhere: a path that is not on the way of any key
leads to the same value as before, so the indices of the items beside a removed one stay as they
are. Both hold for each removal on its own, whatever was removed before it.
-/

namespace LocaleLint

/-! ## Members and items after one removal -/

namespace Json.Members

theorem get?_cons (name n : Text) (value : Json) (rest : Members) :
    get? name ((n, value) :: rest) = if name = n then some value else get? name rest := by
  by_cases same : name = n
  · rw [get?, List.lookup_cons, beq_iff_eq.mpr same, if_pos same]
  · rw [get?, List.lookup_cons, beq_false_of_ne same, if_neg same]
    rfl

theorem get?_erase_of_ne {name other : Text} (differs : other ≠ name) (members : Members) :
    get? other (erase name members) = get? other members := by
  induction members with
  | nil => rfl
  | cons member rest ih =>
    obtain ⟨n, v⟩ := member
    rw [erase, get?_cons]
    split
    · rename_i same
      rw [if_neg (same ▸ differs)]
    · rw [get?_cons, ih]

theorem get?_insert (name other : Text) (value : Json) (members : Members) :
    get? other (insert name value members) =
      if other = name then some value else get? other members := by
  induction members with
  | nil => rw [insert, get?_cons]
  | cons member rest ih =>
    obtain ⟨n, v⟩ := member
    rw [insert, get?_cons]
    split
    · rename_i same
      rw [get?_cons, same]
      split <;> rfl
    · rename_i differs
      rw [get?_cons, ih]
      split
      · rename_i found
        rw [if_neg (found ▸ differs)]
      · rfl

end Json.Members

namespace Removal

open Json (Members Step at? step?)

theorem get?_putMember_of_ne {name other : Text} (differs : other ≠ name) (value : Json)
    (members : Members) : Members.get? other (putMember members name value) =
      Members.get? other members := by
  unfold putMember
  split
  · exact Members.get?_erase_of_ne differs members
  · rw [Members.get?_insert, if_neg differs]

theorem get?_putMember_self {name : Text} {members : Members} {value child : Json}
    (distinct : (members.map Prod.fst).Nodup)
    (found : Members.get? name (putMember members name value) = some child) :
    child = value ∧ value.isEmptyContainer = false := by
  unfold putMember at found
  split at found
  · rw [Members.get?_eq_none (Members.notMem_erase_self distinct)] at found
    cases found
  · rename_i filled
    rw [Members.get?_insert, if_pos rfl] at found
    exact ⟨(Option.some.inj found).symm, Bool.eq_false_iff.mpr filled⟩

theorem getElem?_dropItem_of_ne {items : List Json} {index other : Nat}
    (differs : other ≠ index) : (dropItem items index)[other]? = items[other]? := by
  unfold dropItem
  split
  · rw [List.getElem?_dropLast]
    split
    · rfl
    · rw [eq_comm, List.getElem?_eq_none_iff]
      omega
  · rw [List.getElem?_set_ne differs.symm]

theorem getElem?_dropItem_self {items : List Json} {index : Nat} {item : Json}
    (found : (dropItem items index)[index]? = some item) : item = .object [] := by
  unfold dropItem at found
  split at found
  · rw [List.getElem?_dropLast, if_neg (by omega)] at found
    cases found
  · obtain ⟨inside, _⟩ := List.getElem?_eq_some_iff.mp found
    rw [List.getElem?_set_self (by simpa using inside)] at found
    exact (Option.some.inj found).symm

theorem getElem?_putItem_of_ne {items : List Json} {index other : Nat} (differs : other ≠ index)
    (value : Json) : (putItem items index value)[other]? = items[other]? := by
  unfold putItem
  split
  · exact getElem?_dropItem_of_ne differs
  · rw [List.getElem?_set_ne differs.symm]

theorem getElem?_putItem_self {items : List Json} {index : Nat} {value item : Json}
    (found : (putItem items index value)[index]? = some item) :
    item = .object [] ∨ item = value ∧ value.isEmptyContainer = false := by
  unfold putItem at found
  split at found
  · exact .inl (getElem?_dropItem_self found)
  · rename_i filled
    obtain ⟨inside, _⟩ := List.getElem?_eq_some_iff.mp found
    rw [List.getElem?_set_self (by simpa using inside)] at found
    exact .inr ⟨(Option.some.inj found).symm, Bool.eq_false_iff.mpr filled⟩

/-! ## Where parts lead -/

/-- A part stands for a step: it is the name of the member or a numeral of the index. -/
def Spells (part : Text) : Step → Prop
  | .name word => part = word
  | .index i => Text.toIndex? part = some i

instance : DecidableRel Spells
  | part, .name word => inferInstanceAs (Decidable (part = word))
  | part, .index i => inferInstanceAs (Decidable (Text.toIndex? part = some i))

/-- The parts stand for the steps of a path. -/
def Leads : List Text → List Step → Prop := List.Forall₂ Spells

instance : DecidableRel Leads := inferInstanceAs (DecidableRel (List.Forall₂ Spells))

/-- Nothing is removed from what is empty. -/
theorem removeAt?_of_isEmptyContainer {value : Json} (empty : value.isEmptyContainer)
    (parts : List Text) : removeAt? parts value = none := by
  refine Option.eq_none_iff_forall_ne_some.mpr fun left removed => ?_
  rcases removeAt?_eq_some removed with
    ⟨_, _, members, _, _, rfl, inside, _⟩ | ⟨_, _, items, _, _, _, rfl, _, inside, _⟩
  · cases members with
    | nil => cases inside
    | cons member rest => cases empty
  · cases items with
    | nil => cases inside
    | cons item rest => cases empty

/-- What a removal does to a step into the value: a step that the removal does not take leads to the
same value, and one that it takes to what is left of that value, unless that is empty. -/
theorem step?_removeAt? {part : Text} {rest : List Text} {value left child : Json} {step : Step}
    (removed : removeAt? (part :: rest) value = some left)
    (more : Spells part step → rest ≠ []) (first : step? step value = some child) :
    (¬ Spells part step ∧ step? step left = some child) ∨
      Spells part step ∧ ∃ inner, removeAt? rest child = some inner ∧
        (inner.isEmptyContainer = false → step? step left = some inner) := by
  rcases removeAt?_eq_some removed with
    ⟨_, _, members, old, split, rfl, inside, done⟩ |
    ⟨_, _, items, index, old, split, rfl, numeral, inside, done⟩
  · cases split
    obtain ⟨name, _, rfl, same, given⟩ :=
      (Json.step?_eq_some first).resolve_right fun ⟨_, _, _, other, _⟩ => nomatch other
    cases same
    by_cases same : part = name
    · subst same
      cases given.symm.trans inside
      obtain ⟨inner, _, deeper, rfl⟩ := done.resolve_left fun last => more rfl last.1
      refine .inr ⟨rfl, inner, deeper, fun filled => ?_⟩
      rw [step?, putMember, if_neg (by simp [filled]), Members.get?_insert, if_pos rfl]
    · refine .inl ⟨same, ?_⟩
      rcases done with ⟨_, rfl⟩ | ⟨inner, _, _, rfl⟩
      · rw [step?, Members.get?_erase_of_ne (Ne.symm same), given]
      · rw [step?, get?_putMember_of_ne (Ne.symm same), given]
  · cases split
    obtain ⟨i, _, rfl, same, given⟩ :=
      (Json.step?_eq_some first).resolve_left fun ⟨_, _, _, other, _⟩ => nomatch other
    cases same
    by_cases same : i = index
    · subst same
      cases given.symm.trans inside
      obtain ⟨inner, _, deeper, rfl⟩ := done.resolve_left fun last => more numeral last.1
      refine .inr ⟨numeral, inner, deeper, fun filled => ?_⟩
      have short := (List.getElem?_eq_some_iff.mp inside).1
      rw [step?, putItem, if_neg (by simp [filled]), List.getElem?_set_self short]
    · refine .inl ⟨fun spelled => same (Option.some.inj (spelled.symm.trans numeral)), ?_⟩
      rcases done with ⟨_, rfl⟩ | ⟨inner, _, _, rfl⟩
      · rw [step?, getElem?_dropItem_of_ne same, given]
      · rw [step?, getElem?_putItem_of_ne same, given]

/-- Where a step leads after a removal, it led before: to the same value, to an item that gave way to
an empty object, or to a value of which something that is not empty is left. -/
theorem exists_step_of_removeAt? {parts : List Text} {value left child : Json} {step : Step}
    (sound : value.Sound) (removed : removeAt? parts value = some left)
    (first : step? step left = some child) :
    ∃ old, step? step value = some old ∧
      (child = old ∨ (child = .object [] ∧ ∃ i, step = .index i) ∨
        ∃ rest, removeAt? rest old = some child ∧ child.isEmptyContainer = false) := by
  rcases removeAt?_eq_some removed with
    ⟨name, rest, members, old, rfl, rfl, inside, done⟩ |
    ⟨part, rest, items, index, old, rfl, rfl, numeral, inside, done⟩
  · have inObject : ∃ others, left = .object others := by
      rcases done with ⟨_, rfl⟩ | ⟨_, _, _, rfl⟩ <;> exact ⟨_, rfl⟩
    obtain ⟨others, rfl⟩ := inObject
    obtain ⟨word, _, rfl, same, given⟩ :=
      (Json.step?_eq_some first).resolve_right fun ⟨_, _, _, other, _⟩ => nomatch other
    cases same
    cases sound with
    | object distinct values =>
      by_cases same : word = name
      · subst same
        rcases done with ⟨_, made⟩ | ⟨inner, _, deeper, made⟩
        · cases made
          rw [Members.get?_eq_none (Members.notMem_erase_self distinct)] at given
          cases given
        · cases made
          obtain ⟨rfl, filled⟩ := get?_putMember_self distinct given
          exact ⟨old, inside, .inr (.inr ⟨rest, deeper, filled⟩)⟩
      · refine ⟨child, ?_, .inl rfl⟩
        rcases done with ⟨_, made⟩ | ⟨inner, _, _, made⟩
        · cases made
          rwa [Members.get?_erase_of_ne same] at given
        · cases made
          rwa [get?_putMember_of_ne same] at given
  · have inArray : ∃ others, left = .array others := by
      rcases done with ⟨_, rfl⟩ | ⟨_, _, _, rfl⟩ <;> exact ⟨_, rfl⟩
    obtain ⟨others, rfl⟩ := inArray
    obtain ⟨i, _, rfl, same, given⟩ :=
      (Json.step?_eq_some first).resolve_left fun ⟨_, _, _, other, _⟩ => nomatch other
    cases same
    by_cases same : i = index
    · subst same
      refine ⟨old, inside, .inr ?_⟩
      rcases done with ⟨_, made⟩ | ⟨inner, _, deeper, made⟩
      · cases made
        exact .inl ⟨getElem?_dropItem_self given, i, rfl⟩
      · cases made
        rcases getElem?_putItem_self given with empty | ⟨rfl, filled⟩
        · exact .inl ⟨empty, i, rfl⟩
        · exact .inr ⟨rest, deeper, filled⟩
    · refine ⟨child, ?_, .inl rfl⟩
      rcases done with ⟨_, made⟩ | ⟨inner, _, _, made⟩
      · cases made
        rwa [getElem?_dropItem_of_ne same] at given
      · cases made
        rwa [getElem?_putItem_of_ne same] at given

/-- A removal changes nothing at a path if it is not led to it or above it, and if it is not led
beyond it or nothing is there. The way of the removal and the path are followed together up to the
place where they part. -/
theorem at?_removeAt_of_apart {parts : List Text} {path : List Step} {value target : Json}
    (before : ∀ above, above <+: path → ¬ Leads parts above)
    (behind : target.isEmptyContainer ∨ ∀ front, front <+: parts → ¬ Leads front path)
    (found : at? path value = some target) : at? path (removeAt parts value) = some target := by
  unfold removeAt
  cases removed : removeAt? parts value with
  | none => exact found
  | some left =>
    rw [Option.getD_some]
    induction parts generalizing path value left with
    | nil => cases removed
    | cons part rest ih =>
      cases path with
      | nil =>
        cases found
        rcases behind with empty | beyond
        · rw [removeAt?_of_isEmptyContainer empty] at removed
          cases removed
        · exact absurd .nil (beyond [] List.nil_prefix)
      | cons step path =>
        obtain ⟨child, first, later⟩ := Option.bind_eq_some_iff.mp found
        have more : Spells part step → rest ≠ [] := by
          rintro spelled rfl
          exact before [step] (List.prefix_append [step] path) (.cons spelled .nil)
        rcases step?_removeAt? removed more first with ⟨_, kept⟩ | ⟨spelled, inner, deeper, kept⟩
        · exact Option.bind_eq_some_iff.mpr ⟨child, kept, later⟩
        · have beyond : target.isEmptyContainer ∨
              ∀ front, front <+: rest → ¬ Leads front path :=
            behind.imp_right fun beyond front below leads =>
              beyond (part :: front) (List.cons_prefix_cons.mpr ⟨rfl, below⟩) (.cons spelled leads)
          have reached := ih (fun above below leads => before (step :: above)
            (List.cons_prefix_cons.mpr ⟨rfl, below⟩) (.cons spelled leads)) beyond later inner deeper
          have filled : inner.isEmptyContainer = false := by
            cases path with
            | nil =>
              cases later
              rcases beyond with empty | beyond
              · rw [removeAt?_of_isEmptyContainer empty] at deeper
                cases deeper
              · exact absurd .nil (beyond [] List.nil_prefix)
            | cons next others => exact Json.isEmptyContainer_of_at? reached
          exact Option.bind_eq_some_iff.mpr ⟨inner, kept filled, reached⟩

/-! ## Paths that no key is on -/

/-- Each part of a key that stands for an index is the numeral of that index. -/
def IsCanonical (parts : List Text) : Prop :=
  ∀ part ∈ parts, ∀ index ∈ Text.toIndex? part, part = Text.ofNat index

instance (parts : List Text) : Decidable (IsCanonical parts) :=
  inferInstanceAs (Decidable (∀ part ∈ parts, ∀ index ∈ Text.toIndex? part,
    part = Text.ofNat index))

/-- Canonical parts lead to one path at most, the one that they write. -/
theorem IsCanonical.eq_of_leads {parts : List Text} {path : List Step}
    (canonical : IsCanonical parts) (leads : Leads parts path) : parts = path.map Step.text := by
  induction leads with
  | nil => rfl
  | @cons part step parts path spelled _ ih =>
    have first : part = step.text := by
      cases step with
      | name word => exact spelled
      | index i => exact canonical part List.mem_cons_self i spelled
    rw [List.map_cons, ← first, ← ih fun p inside => canonical p (List.mem_cons_of_mem part inside)]

theorem IsCanonical.of_prefix {parts front : List Text} (canonical : IsCanonical parts)
    (below : front <+: parts) : IsCanonical front :=
  fun part inside => canonical part (below.subset inside)

/-- A removal changes nothing where a path parts from its way. -/
theorem at?_removeAt {parts : List Text} {path : List Step} {value target : Json}
    (canonical : IsCanonical parts) (before : ¬ parts <+: path.map Step.text)
    (behind : ¬ path.map Step.text <+: parts) (found : at? path value = some target) :
    at? path (removeAt parts value) = some target := by
  refine at?_removeAt_of_apart (fun above below leads => before ?_)
    (.inr fun front below leads => behind ?_) found
  · rw [canonical.eq_of_leads leads]
    exact below.map Step.text
  · rwa [← (canonical.of_prefix below).eq_of_leads leads]

/-! ## What the parts of a key lead to -/

/-- Where a part of a key leads: to the member of that name or to the item of that index. -/
def child? (part : Text) : Json → Option Json
  | .object members => Members.get? part members
  | .array items => (Text.toIndex? part).bind fun index => items[index]?
  | _ => none

/-- Where the parts of a key lead. -/
def lookup? : List Text → Json → Option Json
  | [], value => some value
  | part :: rest, value => (child? part value).bind (lookup? rest)

/-- The parts lead to nothing, or to an empty object that keeps the place of an item. -/
def Gone (parts : List Text) (value : Json) : Prop :=
  ∀ found, lookup? parts value = some found →
    found = .object [] ∧ ∃ items, lookup? parts.dropLast value = some (.array items)

theorem gone_of_lookup?_eq_none {parts : List Text} {value : Json}
    (absent : lookup? parts value = none) : Gone parts value := by
  intro found reached
  rw [absent] at reached
  cases reached

theorem gone_singleton_iff {part : Text} {value : Json} :
    Gone [part] value ↔ ∀ child, child? part value = some child →
      child = .object [] ∧ ∃ items, value = .array items := by
  simp [Gone, lookup?]

theorem gone_cons_iff {part : Text} {rest : List Text} (more : rest ≠ []) {value : Json} :
    Gone (part :: rest) value ↔ ∀ child, child? part value = some child → Gone rest child := by
  obtain ⟨next, others, rfl⟩ := List.exists_cons_of_ne_nil more
  unfold Gone
  rw [List.dropLast_cons_of_ne_nil (List.cons_ne_nil next others)]
  constructor
  · intro gone child first found reached
    have whole := gone found (Option.bind_eq_some_iff.mpr ⟨child, first, reached⟩)
    rwa [lookup?, first, Option.bind_some] at whole
  · intro gone found reached
    obtain ⟨child, first, reached⟩ := Option.bind_eq_some_iff.mp reached
    rw [lookup?, first, Option.bind_some]
    exact gone child first found reached

/-- Nothing is in an empty object. -/
theorem gone_empty {parts : List Text} (some : parts ≠ []) : Gone parts (.object []) := by
  obtain ⟨part, rest, rfl⟩ := List.exists_cons_of_ne_nil some
  exact gone_of_lookup?_eq_none rfl

/-- A part leads where the steps lead that it stands for. -/
theorem child?_eq_some {part : Text} {value child : Json} :
    child? part value = some child ↔ ∃ step, Spells part step ∧ step? step value = some child := by
  constructor
  · intro first
    cases value with
    | object members => exact ⟨.name part, rfl, first⟩
    | array items =>
      obtain ⟨i, numeral, first⟩ := Option.bind_eq_some_iff.mp first
      exact ⟨.index i, numeral, first⟩
    | _ => cases first
  · rintro ⟨step, spelled, first⟩
    rcases Json.step?_eq_some first with ⟨word, _, rfl, rfl, inside⟩ | ⟨i, _, rfl, rfl, inside⟩
    · cases spelled
      exact inside
    · exact Option.bind_eq_some_iff.mpr ⟨i, spelled, inside⟩

/-- What a part leads to after a removal is what it led to before, or an empty object in the place
of an item, or what the removal has left of it. -/
theorem child?_removeAt? {parts : List Text} {value left child : Json} {part : Text}
    (sound : value.Sound) (removed : removeAt? parts value = some left)
    (first : child? part left = some child) :
    ∃ old, child? part value = some old ∧
      (child = old ∨ (child = .object [] ∧ ∃ items, value = .array items) ∨
        ∃ rest, removeAt? rest old = some child) := by
  obtain ⟨step, spelled, first⟩ := child?_eq_some.mp first
  obtain ⟨old, before, origin⟩ := exists_step_of_removeAt? sound removed first
  refine ⟨old, child?_eq_some.mpr ⟨step, spelled, before⟩, origin.imp_right (Or.imp ?_ ?_)⟩
  · rintro ⟨empty, i, rfl⟩
    obtain ⟨_, items, _, rfl, _⟩ :=
      (Json.step?_eq_some before).resolve_left fun ⟨_, _, other, _⟩ => nomatch other
    exact ⟨empty, items, rfl⟩
  · rintro ⟨rest, deeper, _⟩
    exact ⟨rest, deeper⟩

theorem sound_step? {step : Step} {value child : Json} (sound : value.Sound)
    (first : step? step value = some child) : child.Sound := by
  rcases Json.step?_eq_some first with
    ⟨word, members, rfl, rfl, inside⟩ | ⟨i, items, rfl, rfl, inside⟩
  · cases sound with
    | object _ values => exact values _ (mem_of_get? inside)
  · cases sound with
    | array values => exact values _ (List.mem_of_getElem? inside)

theorem sound_child? {part : Text} {value child : Json} (sound : value.Sound)
    (first : child? part value = some child) : child.Sound := by
  obtain ⟨step, _, first⟩ := child?_eq_some.mp first
  exact sound_step? sound first

theorem length_dropItem_le (items : List Json) (index : Nat) :
    (dropItem items index).length ≤ items.length := by
  unfold dropItem
  split
  · rw [List.length_dropLast]
    exact Nat.sub_le _ _
  · rw [List.length_set]

theorem length_putItem_le (items : List Json) (index : Nat) (value : Json) :
    (putItem items index value).length ≤ items.length := by
  unfold putItem
  split
  · exact length_dropItem_le items index
  · rw [List.length_set]

/-- What is left of an array is an array that is no longer. -/
theorem removeAt?_array {parts : List Text} {items : List Json} {left : Json}
    (removed : removeAt? parts (.array items) = some left) :
    ∃ others, left = .array others ∧ others.length ≤ items.length := by
  rcases removeAt?_eq_some removed with
    ⟨_, _, _, _, _, same, _⟩ | ⟨_, _, _, _, _, _, same, _, _, ⟨_, rfl⟩ | ⟨_, _, _, rfl⟩⟩
  · cases same
  · cases same
    exact ⟨_, rfl, length_dropItem_le _ _⟩
  · cases same
    exact ⟨_, rfl, length_putItem_le _ _ _⟩

/-- Where the parts of a key lead to something, a removal succeeds. -/
theorem exists_removeAt? {parts : List Text} (some : parts ≠ []) {value found : Json}
    (reached : lookup? parts value = .some found) : ∃ left, removeAt? parts value = .some left := by
  induction parts generalizing value with
  | nil => exact absurd rfl some
  | cons part rest ih =>
    obtain ⟨child, first, deeper⟩ := Option.bind_eq_some_iff.mp reached
    cases value with
    | object members =>
      rw [removeAt?, show Members.get? part members = .some child from first, Option.bind_some]
      by_cases last : rest = []
      · exact ⟨_, if_pos (List.isEmpty_iff.mpr last)⟩
      · obtain ⟨inner, removed⟩ := ih last deeper
        rw [if_neg (by simpa using last), removed]
        exact ⟨_, rfl⟩
    | array items =>
      obtain ⟨index, numeral, first⟩ := Option.bind_eq_some_iff.mp first
      rw [removeAt?, numeral, Option.bind_some, first, Option.bind_some]
      by_cases last : rest = []
      · exact ⟨_, if_pos (List.isEmpty_iff.mpr last)⟩
      · obtain ⟨inner, removed⟩ := ih last deeper
        rw [if_neg (by simpa using last), removed]
        exact ⟨_, rfl⟩
    | _ => cases first

/-- What the parts of a key lead to is gone once it has been removed. -/
theorem gone_of_removeAt? {parts : List Text} {value left : Json} (sound : value.Sound)
    (removed : removeAt? parts value = some left) : Gone parts left := by
  induction parts generalizing value left with
  | nil => cases removed
  | cons part rest ih =>
    rcases removeAt?_eq_some removed with
      ⟨_, _, members, old, split, rfl, inside, ⟨rfl, rfl⟩ | ⟨inner, more, deeper, rfl⟩⟩ |
      ⟨_, _, items, index, old, split, rfl, numeral, inside,
        ⟨rfl, rfl⟩ | ⟨inner, more, deeper, rfl⟩⟩
    · cases split
      cases sound with
      | object distinct values =>
        refine gone_singleton_iff.mpr fun child first => ?_
        rw [child?, Members.get?_eq_none (Members.notMem_erase_self distinct)] at first
        cases first
    · cases split
      have gone := ih (sound_child? sound inside) deeper
      cases sound with
      | object distinct values =>
        refine (gone_cons_iff more).mpr fun child first => ?_
        obtain ⟨rfl, -⟩ := get?_putMember_self distinct first
        exact gone
    · cases split
      refine gone_singleton_iff.mpr fun child first => ?_
      rw [child?, numeral] at first
      exact ⟨getElem?_dropItem_self first, _, rfl⟩
    · cases split
      have gone := ih (sound_child? sound
        (Option.bind_eq_some_iff.mpr ⟨index, numeral, inside⟩)) deeper
      refine (gone_cons_iff more).mpr fun child first => ?_
      rw [child?, numeral] at first
      rcases getElem?_putItem_self first with rfl | ⟨rfl, -⟩
      · exact gone_empty more
      · exact gone

/-- What is gone stays gone, whatever else is removed. -/
theorem Gone.removeAt? {parts others : List Text} {value left : Json} (gone : Gone parts value)
    (sound : value.Sound) (removed : Removal.removeAt? others value = some left) :
    Gone parts left := by
  induction parts generalizing value left others with
  | nil =>
    obtain ⟨rfl, items, same⟩ := gone value rfl
    cases same
  | cons part rest ih =>
    by_cases last : rest = []
    · subst last
      rw [gone_singleton_iff] at gone ⊢
      intro child first
      obtain ⟨old, before, origin⟩ := child?_removeAt? sound removed first
      obtain ⟨rfl, items, rfl⟩ := gone old before
      refine ⟨?_, (removeAt?_array removed).imp fun _ => And.left⟩
      rcases origin with rfl | ⟨empty, _⟩ | ⟨rest, deeper⟩
      · rfl
      · exact empty
      · rcases removeAt?_eq_some deeper with
          ⟨_, _, _, _, _, same, inside, _⟩ | ⟨_, _, _, _, _, _, same, _⟩
        · cases same
          cases inside
        · cases same
    · rw [gone_cons_iff last] at gone ⊢
      intro child first
      obtain ⟨old, before, origin⟩ := child?_removeAt? sound removed first
      rcases origin with rfl | ⟨rfl, _⟩ | ⟨rest, deeper⟩
      · exact gone child before
      · exact gone_empty last
      · exact ih (gone old before) (sound_child? sound before) deeper

/-! ## All removals -/

theorem gone_removeAt {parts : List Text} (some : parts ≠ []) {value : Json}
    (sound : value.Sound) : Gone parts (removeAt parts value) := by
  unfold removeAt
  cases removed : Removal.removeAt? parts value with
  | none =>
    refine gone_of_lookup?_eq_none (Option.eq_none_iff_forall_ne_some.mpr fun found reached => ?_)
    obtain ⟨left, succeeded⟩ := exists_removeAt? some reached
    cases removed.symm.trans succeeded
  | some left => exact gone_of_removeAt? sound removed

theorem Gone.removeAt {parts : List Text} {value : Json} (gone : Gone parts value)
    (sound : value.Sound) (others : List Text) : Gone parts (Removal.removeAt others value) := by
  unfold Removal.removeAt
  cases removed : Removal.removeAt? others value with
  | none => exact gone
  | some left => exact gone.removeAt? sound removed

/-- One of several removals is enough for what the parts lead to to be gone. -/
theorem gone_foldl {queue : List (List Text)} {parts : List Text} (some : parts ≠ [])
    {value : Json} (sound : value.Sound) (either : parts ∈ queue ∨ Gone parts value) :
    Gone parts (queue.foldl (fun value parts => removeAt parts value) value) := by
  induction queue generalizing value with
  | nil => exact either.resolve_left List.not_mem_nil
  | cons first rest ih =>
    refine ih (sound_removeAt sound first) ?_
    rcases either with listed | gone
    · rcases List.mem_cons.mp listed with rfl | later
      · exact .inr (gone_removeAt some sound)
      · exact .inl later
    · exact .inr (gone.removeAt sound first)

theorem at?_foldl {queue : List (List Text)} {path : List Step} {value target : Json}
    (canonical : ∀ parts ∈ queue, IsCanonical parts)
    (apart : ∀ parts ∈ queue, ¬ parts <+: path.map Step.text ∧ ¬ path.map Step.text <+: parts)
    (found : at? path value = some target) :
    at? path (queue.foldl (fun value parts => removeAt parts value) value) = some target := by
  induction queue generalizing value with
  | nil => exact found
  | cons first rest ih =>
    obtain ⟨before, behind⟩ := apart first List.mem_cons_self
    exact ih (fun parts later => canonical parts (List.mem_cons_of_mem _ later))
      (fun parts later => apart parts (List.mem_cons_of_mem _ later))
      (at?_removeAt (canonical first List.mem_cons_self) before behind found)

theorem names_foldl_subset (queue : List (List Text)) (value : Json) :
    (queue.foldl (fun value parts => removeAt parts value) value).names ⊆ value.names := by
  induction queue generalizing value with
  | nil => exact List.Subset.refl _
  | cons first rest ih => exact List.Subset.trans (ih _) (names_removeAt_subset first value)

theorem notMem_names_removeNames {keys : List Text} {value : Json} (sound : value.Sound)
    {key : Text} (listed : key ∈ keys) : key ∉ (removeNames keys value).names := by
  cases sound with
  | @object members distinct values =>
    clear values
    change key ∉ (keys.foldl (fun members key => Members.erase key members) members).map Prod.fst
    have shrinks : ∀ (keys : List Text) (members : Members),
        (keys.foldl (fun members key => Members.erase key members) members).Sublist members := by
      intro keys members
      induction keys generalizing members with
      | nil => exact List.Sublist.refl _
      | cons first rest ih => exact (ih _).trans (Members.erase_sublist first members)
    induction keys generalizing members with
    | nil => cases listed
    | cons first rest ih =>
      rcases List.mem_cons.mp listed with rfl | later
      · exact fun inside => Members.notMem_erase_self distinct (((shrinks rest _).map _).mem inside)
      · exact ih later (nodup_erase distinct first)
  | _ => exact List.not_mem_nil

theorem at?_removeNames {keys : List Text} {path : List Step} {value target : Json}
    (others : ∀ key ∈ keys, ∃ step rest, path = step :: rest ∧ step ≠ .name key)
    (found : at? path value = some target) : at? path (removeNames keys value) = some target := by
  refine removeNames_induction (P := fun value => at? path value = some target) keys found
    fun members key listed reached => ?_
  obtain ⟨step, rest, rfl, differs⟩ := others key listed
  obtain ⟨child, first, deeper⟩ := Option.bind_eq_some_iff.mp reached
  obtain ⟨word, _, rfl, same, inside⟩ :=
    (Json.step?_eq_some first).resolve_right fun ⟨_, _, _, other, _⟩ => nomatch other
  cases same
  rw [at?, step?, Members.get?_erase_of_ne fun same => differs (congrArg Step.name same), inside]
  exact deeper

/-- Removing keys is exact. Of each key nothing is left, neither a member of that name at the top
nor anything that the parts of the key lead to, but for an empty object that keeps the place of an
item. And what a path leads to that is on the way of no key stays where it is. -/
theorem removeKeys_exact {keys : List Text} {value : Json} (sound : value.Sound)
    (canonical : ∀ key ∈ keys, IsCanonical (partsOf key)) :
    (∀ key ∈ keys, key ∉ (removeKeys keys value).names ∧
      Gone (partsOf key) (removeKeys keys value)) ∧
    ∀ path target, at? path value = some target →
      (∀ word, path.head? = some (.name word) → word ∉ keys) →
      (∀ key ∈ keys, ¬ partsOf key <+: path.map Step.text ∧
        ¬ path.map Step.text <+: partsOf key) →
      at? path (removeKeys keys value) = some target := by
  have soundNamed : (removeNames keys value).Sound := sound_removeNames sound keys
  constructor
  · intro key listed
    constructor
    · exact fun inside => notMem_names_removeNames sound listed (names_foldl_subset _ _ inside)
    · exact gone_foldl (Text.splitOn_ne_nil '.' key) soundNamed
        (.inl (mem_removalOrder.mpr ⟨key, listed, rfl⟩))
  · intro path target found others apart
    refine at?_foldl (fun parts inside => ?_) (fun parts inside => ?_) ?_
    · obtain ⟨key, listed, rfl⟩ := mem_removalOrder.mp inside
      exact canonical key listed
    · obtain ⟨key, listed, rfl⟩ := mem_removalOrder.mp inside
      exact apart key listed
    · refine at?_removeNames (fun key listed => ?_) found
      cases path with
      | nil => exact absurd List.nil_prefix (apart key listed).2
      | cons step rest =>
        exact ⟨step, rest, rfl, fun same => others key (congrArg some same) listed⟩

/-- A list of objects and of a text, beside a member whose name has a dot. -/
def questions : Json :=
  .object [("FAQ.TITLE".toList, .string "t".toList),
    ("FAQ".toList, .array
      [.object [("Q".toList, .string "a".toList)],
        .object [("Q".toList, .string "b".toList), ("R".toList, .string "c".toList)],
        .string "d".toList])]

theorem sound_questions : questions.Sound := by
  have read : Json.ofText questions.compact = .ok questions := by cbv
  exact (Json.sound_of_ofText read).1

/-- The first item is emptied and the last one is dropped. The second one stays where it is. -/
theorem removeKeys_exact_questions :
    let keys := ["FAQ.TITLE".toList, "FAQ.0.Q".toList, "FAQ.1.R".toList, "FAQ.2".toList]
    let path := [Step.name "FAQ".toList, .index 1, .name "Q".toList]
    questions.Sound ∧ (∀ key ∈ keys, IsCanonical (partsOf key)) ∧
      at? path questions = some (.string "b".toList) ∧
      at? path (removeKeys keys questions) = some (.string "b".toList) ∧
      ∀ key ∈ keys, key ∉ (removeKeys keys questions).names ∧
        Gone (partsOf key) (removeKeys keys questions) := by
  intro keys path
  have canonical : ∀ key ∈ keys, IsCanonical (partsOf key) := by decide +kernel
  obtain ⟨gone, kept⟩ := removeKeys_exact sound_questions canonical
  refine ⟨sound_questions, canonical, rfl, kept path _ rfl ?_ ?_, gone⟩
  · rintro word ⟨⟩
    decide
  · decide +kernel

end Removal

end LocaleLint
