import Mathlib
import LocaleLint.Proofs.Language.Exactness

/-!
# Removal twice

Removing the same keys again changes nothing. What a removal leaves is settled for it: its parts lead
nowhere any more, or to an item that has become an empty object and has another item behind it. A
later removal keeps both, for it is not of the item behind: the greater index comes first in the
order of removals.
-/

namespace LocaleLint

theorem Json.Members.insert_of_get? {name : Text} {value : Json} {members : Members}
    (found : get? name members = some value) : insert name value members = members := by
  obtain ⟨before, after, rfl, absent⟩ := get?_eq_some found
  exact insert_append value after absent

namespace Removal

open Json (Members Step at? step?)

/-- The parts lead to an item that is an empty object and has another item behind it. -/
def Vacant (parts : List Text) (value : Json) : Prop :=
  ∃ above i next, Leads parts (above ++ [.index i]) ∧
    at? (above ++ [.index i]) value = some (.object []) ∧
    at? (above ++ [.index (i + 1)]) value = some next

/-- The parts lead to nothing that a removal would change. -/
def Settled (parts : List Text) (value : Json) : Prop :=
  lookup? parts value = none ∨ Vacant parts value

/-- Parts are settled if those behind the first are settled where it leads. -/
theorem Settled.cons {part : Text} {rest : List Text} {value child : Json}
    (settled : Settled rest child) (step : Step) (spelled : Spells part step)
    (first : step? step value = some child) : Settled (part :: rest) value := by
  refine settled.imp (fun absent => ?_) fun ⟨above, i, next, leads, empty, behind⟩ => ?_
  · rw [lookup?, child?_eq_some.mpr ⟨step, spelled, first⟩]
    exact absent
  · exact ⟨step :: above, i, next, .cons spelled leads,
      Option.bind_eq_some_iff.mpr ⟨child, first, empty⟩,
      Option.bind_eq_some_iff.mpr ⟨child, first, behind⟩⟩

theorem settled_of_child? {part : Text} {rest : List Text} {value : Json}
    (absent : child? part value = none) : Settled (part :: rest) value := by
  rw [Settled, lookup?, absent]
  exact .inl rfl

/-- An array that has lost an item is settled. -/
theorem settled_dropItem {part : Text} {index : Nat} {items : List Json}
    (numeral : Text.toIndex? part = some index) (inside : index < items.length)
    (rest : List Text) : Settled (part :: rest) (.array (dropItem items index)) := by
  unfold dropItem
  by_cases last : index + 1 = items.length
  · rw [if_pos last]
    refine settled_of_child? ?_
    rw [child?, numeral, Option.bind_some, List.getElem?_dropLast, if_neg (by omega)]
  · rw [if_neg last]
    have first : step? (.index index) (.array (items.set index (.object []))) =
        some (.object []) := List.getElem?_set_self inside
    cases rest with
    | nil =>
      have more : index + 1 < items.length := by omega
      refine .inr ⟨[], index, items[index + 1], .cons numeral .nil,
        Option.bind_eq_some_iff.mpr ⟨_, first, rfl⟩,
        Option.bind_eq_some_iff.mpr ⟨_, ?_, rfl⟩⟩
      rw [step?, List.getElem?_set_ne (by omega), List.getElem?_eq_getElem more]
    | cons next others => exact (settled_of_child? rfl).cons (.index index) numeral first

/-- What a removal leaves is settled for it. -/
theorem settled_of_removeAt? {parts : List Text} {value left : Json} (sound : value.Sound)
    (removed : removeAt? parts value = some left) : Settled parts left := by
  induction parts generalizing value left with
  | nil => cases removed
  | cons part rest ih =>
    rcases removeAt?_eq_some removed with
      ⟨_, _, members, old, split, rfl, found, done⟩ |
      ⟨_, _, items, index, old, split, rfl, numeral, found, done⟩
    · cases split
      cases sound with
      | object distinct values =>
        have erased : Settled (part :: rest) (.object (Members.erase part members)) :=
          settled_of_child? (Members.get?_eq_none (Members.notMem_erase_self distinct))
        rcases done with ⟨_, rfl⟩ | ⟨inner, _, deeper, rfl⟩
        · exact erased
        · unfold putMember
          split
          · exact erased
          · refine (ih (values _ (mem_of_get? found)) deeper).cons (.name part) rfl ?_
            rw [step?, Members.get?_insert, if_pos rfl]
    · cases split
      have inside := (List.getElem?_eq_some_iff.mp found).1
      rcases done with ⟨_, rfl⟩ | ⟨inner, _, deeper, rfl⟩
      · exact settled_dropItem numeral inside _
      · unfold putItem
        split
        · exact settled_dropItem numeral inside _
        · cases sound with
          | array values =>
            have onward := ih (values _ (List.mem_of_getElem? found)) deeper
            exact onward.cons (.index index) numeral (List.getElem?_set_self inside)

theorem settled_removeAt {parts : List Text} (some : parts ≠ []) {value : Json}
    (sound : value.Sound) : Settled parts (removeAt parts value) := by
  unfold removeAt
  cases removed : removeAt? parts value with
  | none =>
    refine .inl (Option.eq_none_iff_forall_ne_some.mpr fun found reached => ?_)
    obtain ⟨left, succeeded⟩ := exists_removeAt? some reached
    cases removed.symm.trans succeeded
  | some left => exact settled_of_removeAt? sound removed

/-- A removal works only where its parts lead to something. -/
theorem exists_lookup?_of_removeAt? {parts : List Text} {value left : Json}
    (removed : removeAt? parts value = some left) : ∃ found, lookup? parts value = some found := by
  induction parts generalizing value left with
  | nil => exact ⟨value, rfl⟩
  | cons part rest ih =>
    have reached : ∃ child, child? part value = some child ∧
        (rest = [] ∨ ∃ inner, removeAt? rest child = some inner) := by
      rcases removeAt?_eq_some removed with
        ⟨_, _, _, child, split, rfl, found, done⟩ |
        ⟨_, _, _, index, child, split, rfl, numeral, found, done⟩
      · cases split
        exact ⟨child, found, done.imp And.left fun ⟨inner, _, deeper, _⟩ => ⟨inner, deeper⟩⟩
      · cases split
        exact ⟨child, Option.bind_eq_some_iff.mpr ⟨index, numeral, found⟩,
          done.imp And.left fun ⟨inner, _, deeper, _⟩ => ⟨inner, deeper⟩⟩
    obtain ⟨child, first, rfl | ⟨inner, deeper⟩⟩ := reached
    · exact ⟨child, Option.bind_eq_some_iff.mpr ⟨child, first, rfl⟩⟩
    · obtain ⟨found, later⟩ := ih deeper
      exact ⟨found, Option.bind_eq_some_iff.mpr ⟨child, first, later⟩⟩

/-- Where an item gave way to an empty object, the removal leaves all as it is. -/
theorem Vacant.removeAt? {parts : List Text} {value : Json} (vacant : Vacant parts value) :
    Removal.removeAt? parts value = some value := by
  obtain ⟨above, i, next, leads, empty, behind⟩ := vacant
  induction above generalizing parts value with
  | nil =>
    obtain ⟨part, _, numeral, none, rfl⟩ := List.forall₂_cons_right_iff.mp leads
    cases List.forall₂_nil_right_iff.mp none
    obtain ⟨_, first, same⟩ := Option.bind_eq_some_iff.mp empty
    obtain ⟨_, second, _⟩ := Option.bind_eq_some_iff.mp behind
    cases same
    obtain ⟨_, items, same, rfl, found⟩ :=
      (Json.step?_eq_some first).resolve_left fun ⟨_, _, other, _⟩ => nomatch other
    cases same
    have more : i + 1 < items.length := (List.getElem?_eq_some_iff.mp second).1
    have kept : dropItem items i = items := by
      rw [dropItem, if_neg (by omega), ← (List.getElem?_eq_some_iff.mp found).2,
        List.set_getElem_self]
    rw [Removal.removeAt?, numeral, Option.bind_some, found, Option.bind_some,
      if_pos List.isEmpty_nil, kept]
  | cons step above ih =>
    obtain ⟨part, rest, spelled, later, rfl⟩ := List.forall₂_cons_right_iff.mp leads
    obtain ⟨child, first, empty⟩ := Option.bind_eq_some_iff.mp empty
    obtain ⟨child', first', behind⟩ := Option.bind_eq_some_iff.mp behind
    cases first.symm.trans first'
    have inner := ih later empty behind
    have some : rest ≠ [] := by
      rintro rfl
      cases inner
    have filled : child.isEmptyContainer = false := by
      cases above with
      | nil => exact Json.isEmptyContainer_of_at? empty
      | cons _ _ => exact Json.isEmptyContainer_of_at? empty
    rcases Json.step?_eq_some first with
      ⟨word, members, rfl, rfl, found⟩ | ⟨index, items, rfl, rfl, found⟩
    · cases spelled
      rw [Removal.removeAt?, found, Option.bind_some, if_neg (by simpa using some), inner,
        Option.map_some, putMember, if_neg (by simp [filled]), Members.insert_of_get? found]
    · rw [Removal.removeAt?, spelled, Option.bind_some, found, Option.bind_some,
        if_neg (by simpa using some), inner, Option.map_some, putItem, if_neg (by simp [filled]),
        ← (List.getElem?_eq_some_iff.mp found).2, List.set_getElem_self]

theorem Settled.removeAt {parts : List Text} {value : Json} (settled : Settled parts value) :
    Removal.removeAt parts value = value := by
  unfold Removal.removeAt
  rcases settled with absent | vacant
  · cases removed : Removal.removeAt? parts value with
    | none => rfl
    | some left =>
      obtain ⟨found, reached⟩ := exists_lookup?_of_removeAt? removed
      cases absent.symm.trans reached
  · rw [vacant.removeAt?, Option.getD_some]

theorem removeAt_nil (value : Json) : removeAt [] value = value := by
  rw [removeAt, removeAt?, Option.getD_none]

/-- A removal that has been done changes nothing. -/
theorem removeAt_removeAt {value : Json} (sound : value.Sound) (parts : List Text) :
    removeAt parts (removeAt parts value) = removeAt parts value := by
  by_cases none : parts = []
  · rw [none, removeAt_nil]
  · exact (settled_removeAt none sound).removeAt

/-- Where parts lead after a removal, they led to something before. -/
theorem exists_lookup?_of_lookup?_removeAt? {parts others : List Text} {value left found : Json}
    (sound : value.Sound) (removed : removeAt? others value = some left)
    (reached : lookup? parts left = some found) : ∃ old, lookup? parts value = some old := by
  induction parts generalizing value left others with
  | nil => exact ⟨value, rfl⟩
  | cons part rest ih =>
    obtain ⟨child, first, later⟩ := Option.bind_eq_some_iff.mp reached
    obtain ⟨old, before, origin⟩ := child?_removeAt? sound removed first
    have onward : ∃ target, lookup? rest old = some target := by
      rcases origin with rfl | ⟨rfl, _⟩ | ⟨others, deeper⟩
      · exact ⟨found, later⟩
      · cases rest with
        | nil => exact ⟨old, rfl⟩
        | cons next others => cases later
      · exact ih (sound_child? sound before) deeper later
    obtain ⟨target, onward⟩ := onward
    exact ⟨target, Option.bind_eq_some_iff.mpr ⟨old, before, onward⟩⟩

theorem lookup?_removeAt_eq_none {parts others : List Text} {value : Json} (sound : value.Sound)
    (absent : lookup? parts value = none) : lookup? parts (removeAt others value) = none := by
  unfold removeAt
  cases removed : removeAt? others value with
  | none => exact absent
  | some left =>
    refine Option.eq_none_iff_forall_ne_some.mpr fun found reached => ?_
    obtain ⟨old, before⟩ := exists_lookup?_of_lookup?_removeAt? sound removed reached
    cases absent.symm.trans before

/-- Parts lead nowhere once what their front leads to is gone. -/
theorem Gone.lookup?_eq_none {front rest : List Text} {value : Json} (gone : Gone front value)
    (some : front ≠ []) (more : rest ≠ []) : lookup? (front ++ rest) value = none := by
  induction front generalizing value with
  | nil => exact absurd rfl some
  | cons part front ih =>
    rw [List.cons_append, lookup?]
    cases first : child? part value with
    | none => rfl
    | some child =>
      rw [Option.bind_some]
      by_cases last : front = []
      · subst last
        obtain ⟨rfl, _⟩ := gone_singleton_iff.mp gone child first
        obtain ⟨next, others, rfl⟩ := List.exists_cons_of_ne_nil more
        rfl
      · exact ih ((gone_cons_iff last).mp gone child first) last

/-- Canonical parts are the steps that they lead along, as these are written. -/
theorem IsCanonical.spells {parts : List Text} {path : List Step} (canonical : IsCanonical parts)
    (leads : Leads parts path) : ∀ step ∈ path, Spells step.text step := by
  have written : Leads (path.map Step.text) path := canonical.eq_of_leads leads ▸ leads
  exact List.forall₂_same.mp (List.forall₂_map_left_iff.mp written)

/-- Parts that lead to an item, or into it, come before those of the item in front of it. -/
theorem not_partsLe_of_leads (rest : List Text) {front parts : List Text} {above : List Step}
    {i : Nat}
    (canonical : IsCanonical front) (leads : Leads front (above ++ [.index (i + 1)]))
    (canonical' : IsCanonical parts) (leads' : Leads parts (above ++ [.index i])) :
    ¬ partsLe (front ++ rest) parts = true := by
  have greater : Text.toIndex? (Text.ofNat (i + 1)) = some (i + 1) :=
    canonical.spells leads (.index (i + 1)) (List.mem_append_right _ List.mem_cons_self)
  have smaller : Text.toIndex? (Text.ofNat i) = some i :=
    canonical'.spells leads' (.index i) (List.mem_append_right _ List.mem_cons_self)
  rw [canonical.eq_of_leads leads, canonical'.eq_of_leads leads', List.map_append,
    List.map_append, List.append_assoc, partsLe_append_left]
  intro le
  rcases partsLe_cons.mp le with ⟨same, _⟩ | ⟨_, le⟩
  · rw [show Text.ofNat (i + 1) = Text.ofNat i from same, smaller] at greater
    injection greater
    omega
  · exact not_partLe_of_lt greater smaller (Nat.lt_succ_self i) le

/-- An item that gave way to an empty object stays so, and so does one behind it, if a later removal
is not along the way to the item. -/
theorem Vacant.removeAt_of_le {parts later : List Text} {value : Json}
    (vacant : Vacant parts value) (canonical : IsCanonical parts) (canonical' : IsCanonical later)
    (le : partsLe later parts = true) (through : ¬ later <+: parts) :
    Vacant parts (Removal.removeAt later value) := by
  obtain ⟨above, i, next, leads, empty, behind⟩ := vacant
  have aside : ∀ front, front <+: above ++ [.index i] → ¬ Leads later front := by
    intro front below leads'
    refine through ?_
    rw [canonical.eq_of_leads leads, canonical'.eq_of_leads leads']
    exact below.map Step.text
  refine ⟨above, i, next, leads, at?_removeAt_of_apart aside (.inl rfl) empty,
    at?_removeAt_of_apart (fun front below leads' => ?_) (.inr fun front below leads' => ?_) behind⟩
  · rcases List.prefix_concat_iff.mp below with rfl | below
    · refine not_partsLe_of_leads [] canonical' leads' canonical leads ?_
      rwa [List.append_nil]
    · exact aside front (below.trans (List.prefix_append above _)) leads'
  · obtain ⟨rest, rfl⟩ := below
    exact not_partsLe_of_leads rest (canonical'.of_prefix (List.prefix_append front rest)) leads'
      canonical leads le

/-- What an earlier removal has settled is kept by each later one. -/
theorem Settled.removeAt_of_le {parts later : List Text} {value : Json}
    (settled : Settled parts value) (sound : value.Sound) (canonical : IsCanonical parts)
    (canonical' : IsCanonical later) (le : partsLe later parts = true) :
    Settled parts (Removal.removeAt later value) := by
  rcases settled with absent | vacant
  · exact .inl (lookup?_removeAt_eq_none sound absent)
  by_cases through : later <+: parts
  · obtain ⟨rest, rfl⟩ := through
    by_cases same : rest = []
    · subst same
      rw [List.append_nil] at vacant ⊢
      rw [Settled.removeAt (.inr vacant)]
      exact .inr vacant
    · by_cases none : later = []
      · subst none
        rw [removeAt_nil]
        exact .inr vacant
      · exact .inl ((gone_removeAt none sound).lookup?_eq_none none same)
  · exact .inr (vacant.removeAt_of_le canonical canonical' le through)

theorem Settled.foldl_of_le {queue : List (List Text)} {parts : List Text} {value : Json}
    (settled : Settled parts value) (sound : value.Sound) (canonical : IsCanonical parts)
    (others : ∀ later ∈ queue, IsCanonical later)
    (le : ∀ later ∈ queue, partsLe later parts = true) :
    Settled parts (queue.foldl (fun value parts => Removal.removeAt parts value) value) := by
  induction queue generalizing value with
  | nil => exact settled
  | cons later rest ih =>
    obtain ⟨written, others⟩ := List.forall_mem_cons.mp others
    obtain ⟨first, le⟩ := List.forall_mem_cons.mp le
    exact ih (settled.removeAt_of_le sound canonical written first) (sound_removeAt sound later)
      others le

/-- All that has been removed in a descending order is settled at the end. -/
theorem settled_foldl {queue : List (List Text)} {value : Json} (sound : value.Sound)
    (some : ∀ parts ∈ queue, parts ≠ []) (canonical : ∀ parts ∈ queue, IsCanonical parts)
    (ordered : queue.Pairwise fun earlier later => partsLe later earlier = true) :
    ∀ parts ∈ queue,
      Settled parts (queue.foldl (fun value parts => removeAt parts value) value) := by
  induction queue generalizing value with
  | nil => exact nofun
  | cons first rest ih =>
    obtain ⟨behind, ordered⟩ := List.pairwise_cons.mp ordered
    obtain ⟨filled, some⟩ := List.forall_mem_cons.mp some
    obtain ⟨written, others⟩ := List.forall_mem_cons.mp canonical
    have soundLeft := sound_removeAt sound first
    have done : Settled first (removeAt first value) := settled_removeAt filled sound
    intro parts inside
    rcases List.mem_cons.mp inside with rfl | later
    · exact done.foldl_of_le soundLeft written others behind
    · exact ih soundLeft some others ordered parts later

/-- Removals that are all settled change nothing. -/
theorem foldl_eq_self {queue : List (List Text)} {value : Json}
    (settled : ∀ parts ∈ queue, Settled parts value) :
    queue.foldl (fun value parts => removeAt parts value) value = value := by
  induction queue with
  | nil => rfl
  | cons first rest ih =>
    obtain ⟨done, others⟩ := List.forall_mem_cons.mp settled
    rw [List.foldl_cons, done.removeAt, ih others]

/-- A value without a member of any of the names has nothing taken out by the names. -/
theorem removeNames_eq_self {keys : List Text} {value : Json}
    (absent : ∀ key ∈ keys, key ∉ value.names) : removeNames keys value = value := by
  cases value with
  | object members =>
    rw [removeNames]
    induction keys with
    | nil => rfl
    | cons first rest ih =>
      obtain ⟨gone, others⟩ := List.forall_mem_cons.mp absent
      rw [List.foldl_cons, Members.erase_of_notMem gone]
      exact ih others
  | _ => rfl

/-- Removing the same keys again changes nothing, if each part of them that stands for an index is
the numeral of that index. -/
theorem removeKeys_removeKeys {keys : List Text} {value : Json} (sound : value.Sound)
    (canonical : ∀ key ∈ keys, IsCanonical (partsOf key)) :
    removeKeys keys (removeKeys keys value) = removeKeys keys value := by
  have soundNamed : (removeNames keys value).Sound := sound_removeNames sound keys
  have named : removeNames keys (removeKeys keys value) = removeKeys keys value :=
    removeNames_eq_self fun key listed inside =>
      notMem_names_removeNames sound listed (names_foldl_subset _ _ inside)
  have settled : ∀ parts ∈ removalOrder keys, Settled parts (removeKeys keys value) := by
    refine settled_foldl soundNamed (fun parts inside => ?_) (fun parts inside => ?_)
      (pairwise_removalOrder keys)
    · obtain ⟨key, _, rfl⟩ := mem_removalOrder.mp inside
      exact Text.splitOn_ne_nil '.' key
    · obtain ⟨key, listed, rfl⟩ := mem_removalOrder.mp inside
      exact canonical key listed
  calc removeKeys keys (removeKeys keys value)
      = (removalOrder keys).foldl (fun value parts => removeAt parts value)
          (removeKeys keys value) := by rw [removeKeys.eq_1 keys (removeKeys keys value), named]
    _ = removeKeys keys value := foldl_eq_self settled

/-- The first item is emptied and keeps its place, which a second removal does not take from it. -/
theorem removeKeys_removeKeys_questions :
    let keys := ["FAQ.TITLE".toList, "FAQ.0.Q".toList, "FAQ.1.R".toList]
    questions.Sound ∧ (∀ key ∈ keys, IsCanonical (partsOf key)) ∧
      at? [.name "FAQ".toList, .index 0] (removeKeys keys questions) = some (.object []) ∧
      removeKeys keys (removeKeys keys questions) = removeKeys keys questions := by
  intro keys
  have canonical : ∀ key ∈ keys, IsCanonical (partsOf key) := by decide +kernel
  exact ⟨sound_questions, canonical, by cbv, removeKeys_removeKeys sound_questions canonical⟩

/-- With another numeral of an index the item behind can go last, and a second removal takes more. -/
example : let keys := ["1.0".toList, "01.1".toList]
    let value := Json.array [.null, .array [.null, .null]]
    removeKeys keys value = .array [.null, .array [.object []]] ∧
      removeKeys keys (removeKeys keys value) = .array [.null] :=
  ⟨by cbv, by cbv⟩

end Removal

end LocaleLint
