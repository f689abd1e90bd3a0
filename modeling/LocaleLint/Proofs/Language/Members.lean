import Mathlib
import LocaleLint.Proofs.Json.Source
import LocaleLint.Proofs.Language.Flattening
import LocaleLint.Proofs.Language.Plain

/-!
# The members of a text

The members of a JSON text, each with the names on the way to it and the part of the text up to the
end of its name. Where no object repeats a name, the members that are no containers are the leaves of
the value.
-/

namespace LocaleLint.Json.Source

open Text (joinWith)

/-- The names of the members in a value, in the order of the text. -/
def names (source : Source) : List Text := source.pieces.filterMap Piece.name?

/-- Whether a value is not a container. -/
def isScalar : Source → Bool
  | word _ | string _ => true
  | array .. | object .. => false

/-- The parts of an object up to the name behind some of its members. -/
def upTo (before : List (Label × Source)) (label : Label) : List Piece :=
  .plain ['\x7b'] :: (memberPieces true before ++
    [.plain (label.text before.isEmpty), .name label.name])

/-- The members of a value: the names on the way to a member, the parts of the value up to the end
of the member's name, and what the member holds. -/
inductive Reaches : Source → List Text → List Piece → Source → Prop
  | here (before : List (Label × Source)) (label : Label) (value : Source)
      (behind : List (Label × Source)) (close : Gap) :
      Reaches (object (before ++ (label, value) :: behind) close) [label.name.1]
        (upTo before label) value
  | inside (before : List (Label × Source)) (label : Label) {value : Source}
      (behind : List (Label × Source)) (close : Gap) {path : List Text} {front : List Piece}
      {target : Source} (later : Reaches value path front target) :
      Reaches (object (before ++ (label, value) :: behind) close) (label.name.1 :: path)
        (upTo before label ++ .plain label.colon :: front) target

/-- No name is used by a member that stands in front of the member in its object, nor inside of such
a member. -/
inductive Fresh : Source → Prop
  | word (w : Word) : Fresh (word w)
  | string (s : Unescaped) : Fresh (string s)
  | array (items : List (Lead × Source)) (close : Gap) : Fresh (array items close)
  | object {members : List (Label × Source)} {close : Gap}
      (apart : members.Pairwise fun earlier later =>
        later.1.name.1 ∉ earlier.1.name.1 :: earlier.2.names)
      (values : ∀ member ∈ members, Fresh member.2) : Fresh (object members close)

/-- All containers are objects. -/
inductive ArrayFree : Source → Prop
  | word (w : Word) : ArrayFree (word w)
  | string (s : Unescaped) : ArrayFree (string s)
  | object {members : List (Label × Source)} {close : Gap}
      (values : ∀ member ∈ members, ArrayFree member.2) : ArrayFree (object members close)

/-- Only members at the top that are no containers have names with dots. -/
def DotsOnTop : Source → Prop
  | object members _ => ∀ member ∈ members,
      (member.2.isScalar = true ∨ '.' ∉ member.1.name.1) ∧ ∀ name ∈ member.2.names, '.' ∉ name
  | _ => True

theorem memberPieces_append (first : Bool) (before more : List (Label × Source)) :
    memberPieces first (before ++ more) =
      memberPieces first before ++ memberPieces (first && before.isEmpty) more := by
  induction before generalizing first with
  | nil => simp [memberPieces]
  | cons member before ih =>
    obtain ⟨label, value⟩ := member
    simp [memberPieces, ih]

theorem pieces_object (before : List (Label × Source)) (label : Label) (value : Source)
    (behind : List (Label × Source)) (close : Gap) :
    (object (before ++ (label, value) :: behind) close).pieces =
      upTo before label ++ .plain label.colon ::
        (value.pieces ++ (memberPieces false behind ++ [.plain (close.1 ++ ['\x7d'])])) := by
  simp [pieces, memberPieces_append, memberPieces, upTo]

theorem names_memberPieces (first : Bool) (members : List (Label × Source)) :
    (memberPieces first members).filterMap Piece.name? =
      members.flatMap fun member => member.1.name.1 :: member.2.names := by
  induction members generalizing first with
  | nil => rfl
  | cons member members ih =>
    obtain ⟨label, value⟩ := member
    simp only [memberPieces, List.filterMap_cons, Piece.name?, List.filterMap_append, ih,
      List.flatMap_cons, names, List.cons_append]

section

variable {members : List (Label × Source)} {close : Gap}

theorem mem_names_object {name : Text} :
    name ∈ (object members close).names ↔
      ∃ member ∈ members, name ∈ member.1.name.1 :: member.2.names := by
  rw [names, pieces, List.filterMap_cons_none rfl, List.filterMap_append, names_memberPieces]
  simp [Piece.name?]

theorem name_mem_names {member : Label × Source} (inside : member ∈ members) (close : Gap) : member.1.name.1 ∈ (object members close).names :=
  mem_names_object.mpr ⟨member, inside, List.mem_cons_self⟩

theorem names_subset {member : Label × Source} (inside : member ∈ members) (close : Gap) : member.2.names ⊆ (object members close).names :=
  fun _ used => mem_names_object.mpr ⟨member, inside, List.mem_cons_of_mem _ used⟩

theorem Fresh.apart (fresh : (Source.object members close).Fresh) : members.Pairwise fun earlier later => later.1.name.1 ∉ earlier.1.name.1 :: earlier.2.names := by
  cases fresh with
  | object apart _ => exact apart

theorem Fresh.values (fresh : (Source.object members close).Fresh) :
    ∀ member ∈ members, member.2.Fresh := by
  cases fresh with
  | object _ values => exact values

end

theorem Fresh.notMem {before behind : List (Label × Source)} {label : Label} {value : Source}
    {close : Gap} (fresh : (Source.object (before ++ (label, value) :: behind) close).Fresh) :
    ∀ member ∈ before, label.name.1 ∉ member.1.name.1 :: member.2.names := fun member inside =>
  (List.pairwise_append.mp fresh.apart).2.2 member inside _ List.mem_cons_self

section

variable {source target : Source} {name : Text} {path : List Text} {front : List Piece}

theorem Reaches.names (reaches : source.Reaches path front target) : ∀ name ∈ path, name ∈ source.names := by
  induction reaches with
  | here before label value behind close =>
    exact List.forall_mem_singleton.mpr (name_mem_names List.mem_append_cons_self close)
  | inside before label behind close _ ih =>
    exact List.forall_mem_cons.mpr ⟨name_mem_names List.mem_append_cons_self close,
      fun name used => names_subset List.mem_append_cons_self close (ih name used)⟩

theorem Reaches.ne_nil (reaches : source.Reaches path front target) : path ≠ [] := by
  cases reaches <;> exact List.cons_ne_nil _ _

theorem Reaches.isScalar_eq (reaches : source.Reaches path front target) :
    source.isScalar = false := by
  cases reaches <;> rfl

theorem Reaches.undotted (reaches : source.Reaches (name :: path) front target)
    (dots : source.DotsOnTop) (nested : path ≠ []) : ∀ part ∈ name :: path, '.' ∉ part := by
  cases reaches with
  | here => exact absurd rfl nested
  | inside before label behind close later =>
    obtain ⟨top, undotted⟩ := dots _ List.mem_append_cons_self
    refine List.forall_mem_cons.mpr ⟨top.resolve_left ?_, fun part inside =>
      undotted part (later.names part inside)⟩
    rw [later.isScalar_eq]
    exact Bool.false_ne_true

end

section

variable {members : List (Label × Source)} {close : Gap}

theorem Fresh.value_object (fresh : (Source.object members close).Fresh) : (Source.object members close).value =
      .object (members.map fun member => (member.1.name.1, member.2.value)) := by
  have values : memberValues members =
      members.map fun member => (member.1.name.1, member.2.value) := by
    clear fresh
    induction members with
    | nil => rfl
    | cons member members ih => rw [memberValues, ih, List.map_cons]
  have distinct : ((memberValues members).map Prod.fst).Nodup := by
    rw [values, List.map_map, List.Nodup, List.pairwise_map]
    exact fresh.apart.imp fun apart same => apart (List.mem_cons.mpr (.inl same.symm))
  rw [value, Members.ofPairs_eq_self distinct, values]

theorem Fresh.below_object (fresh : (Source.object members close).Fresh) (above : Text) :
    Leaf.below above (Source.object members close).value = members.flatMap fun member =>
      Leaf.below (Leaf.join above member.1.name.1) member.2.value := by
  rw [fresh.value_object, Leaf.below]
  clear fresh
  induction members with
  | nil => rfl
  | cons member members ih => rw [List.map_cons, Leaf.belowMembers, ih, List.flatMap_cons]

end

theorem below_scalar {source : Source} (scalar : source.isScalar = true) (above : Text) :
    ∃ text, Leaf.below above source.value = Leaf.ofKey above text := by
  match source with
  | .string s => exact ⟨s, rfl⟩
  | .word ⟨_, .null, _, _⟩ => exact ⟨_, rfl⟩
  | .word ⟨_, .bool true, _, _⟩ => exact ⟨_, rfl⟩
  | .word ⟨_, .bool false, _, _⟩ => exact ⟨_, rfl⟩
  | .word ⟨_, .number n, _, _⟩ => exact ⟨_, rfl⟩

theorem exists_leaf_of_scalar {source : Source} (scalar : source.isScalar = true) {key : Text}
    (filled : key ≠ []) : ∃ leaf ∈ Leaf.below key source.value, leaf.key = key := by
  obtain ⟨text, below⟩ := below_scalar scalar key
  rw [below, Leaf.ofKey_filled filled]
  exact ⟨_, List.mem_singleton_self _, rfl⟩

/-- A member that is not a container is a leaf. -/
theorem Reaches.exists_leaf {source target : Source} {path : List Text} {front : List Piece}
    (reaches : source.Reaches path front target) (scalar : target.isScalar = true)
    (fresh : source.Fresh) (filled : ∀ name ∈ source.names, name ≠ []) {above : List Text}
    (filledAbove : ∀ name ∈ above, name ≠ []) :
    ∃ leaf ∈ Leaf.below (joinWith ['.'] above) source.value,
      leaf.key = joinWith ['.'] (above ++ path) := by
  induction reaches generalizing above with
  | here before label value behind close =>
    have member : (label, value) ∈ before ++ (label, value) :: behind := List.mem_append_cons_self
    have more := filled_concat filledAbove (filled _ (name_mem_names member close))
    obtain ⟨leaf, inside, key⟩ := exists_leaf_of_scalar scalar (joinWith_ne_nil (by simp) more)
    refine ⟨leaf, ?_, key⟩
    rw [fresh.below_object]
    exact List.mem_flatMap.mpr ⟨_, member, join_joinWith filledAbove _ ▸ inside⟩
  | @inside before label value behind close path front target _ ih =>
    have member : (label, value) ∈ before ++ (label, value) :: behind := List.mem_append_cons_self
    obtain ⟨leaf, inside, key⟩ := ih scalar (fresh.values _ member)
      (fun name used => filled name (names_subset member close used))
      (filled_concat filledAbove (filled _ (name_mem_names member close)))
    rw [List.append_assoc] at key
    refine ⟨leaf, ?_, key⟩
    rw [fresh.below_object]
    exact List.mem_flatMap.mpr ⟨_, member, join_joinWith filledAbove _ ▸ inside⟩

/-- The only leaf of a value that is not a container has the key of the value. -/
theorem leaf_of_scalar {source : Source} (scalar : source.isScalar = true) {above : List Text}
    (filledAbove : ∀ name ∈ above, name ≠ []) {leaf : Leaf}
    (inside : leaf ∈ Leaf.below (joinWith ['.'] above) source.value) :
    above ≠ [] ∧ leaf.key = joinWith ['.'] above := by
  obtain ⟨text, below⟩ := below_scalar scalar (joinWith ['.'] above)
  rw [below] at inside
  have some : above ≠ [] := by
    rintro rfl
    cases inside
  rw [Leaf.ofKey_filled (joinWith_ne_nil some filledAbove), List.mem_singleton] at inside
  exact ⟨some, inside ▸ rfl⟩

/-- A leaf of a value without arrays is a member that is not a container, or the value itself. -/
theorem exists_reaches {source : Source} (free : source.ArrayFree) (fresh : source.Fresh)
    (filled : ∀ name ∈ source.names, name ≠ []) {above : List Text}
    (filledAbove : ∀ name ∈ above, name ≠ []) {leaf : Leaf}
    (inside : leaf ∈ Leaf.below (joinWith ['.'] above) source.value) :
    (above ≠ [] ∧ source.isScalar = true ∧ leaf.key = joinWith ['.'] above) ∨
      ∃ path front target, source.Reaches path front target ∧ target.isScalar = true ∧
        leaf.key = joinWith ['.'] (above ++ path) := by
  induction free generalizing above with
  | word w =>
    obtain ⟨some, key⟩ := @leaf_of_scalar (.word w) rfl _ filledAbove _ inside
    exact .inl ⟨some, rfl, key⟩
  | string s =>
    obtain ⟨some, key⟩ := @leaf_of_scalar (.string s) rfl _ filledAbove _ inside
    exact .inl ⟨some, rfl, key⟩
  | @object members close _ ih =>
    right
    rw [fresh.below_object] at inside
    obtain ⟨⟨label, value⟩, member, inside⟩ := List.mem_flatMap.mp inside
    rw [join_joinWith filledAbove] at inside
    have deeper := ih _ member (fresh.values _ member)
      (fun name used => filled name (names_subset member close used))
      (filled_concat filledAbove (filled _ (name_mem_names member close))) inside
    obtain ⟨before, behind, rfl⟩ := List.append_of_mem member
    rcases deeper with ⟨-, scalar, key⟩ | ⟨path, front, target, reaches, scalar, key⟩
    · exact ⟨_, _, value, .here before label value behind close, scalar, key⟩
    · rw [List.append_assoc] at key
      exact ⟨_, _, target, .inside before label behind close reaches, scalar, key⟩

/-- If keys are distinct, members of an object have no key in common. -/
theorem Fresh.key_ne {members : List (Label × Source)} {close : Gap} {above : Text}
    (fresh : (Source.object members close).Fresh)
    (distinct : ((Leaf.below above (Source.object members close).value).map (·.key)).Nodup)
    {member other : Label × Source} (inside : member ∈ members) (inside' : other ∈ members)
    (apart : member ≠ other) {leaf leaf' : Leaf}
    (below : leaf ∈ Leaf.below (Leaf.join above member.1.name.1) member.2.value)
    (below' : leaf' ∈ Leaf.below (Leaf.join above other.1.name.1) other.2.value) :
    leaf.key ≠ leaf'.key := by
  rw [fresh.below_object, List.map_flatMap, List.nodup_flatMap] at distinct
  have symm : Std.Symm (Function.onFun List.Disjoint fun member : Label × Source =>
      (Leaf.below (Leaf.join above member.1.name.1) member.2.value).map (·.key)) :=
    ⟨fun _ _ => List.Disjoint.symm⟩
  have disjoint := distinct.2.forall inside inside' apart
  exact fun same => disjoint (List.mem_map_of_mem below) (same ▸ List.mem_map_of_mem below')

/-- The key of a member of a member is not a name, if the keys are distinct. -/
theorem joinWith_notMem_names {source target : Source} {name : Text} {path : List Text}
    {front : List Piece} (fresh : source.Fresh) (filled : ∀ name ∈ source.names, name ≠ [])
    (dots : source.DotsOnTop) (distinct : ((Leaf.all source.value).map (·.key)).Nodup)
    (reaches : source.Reaches (name :: path) front target) (nested : path ≠ [])
    (scalar : target.isScalar = true) : joinWith ['.'] (name :: path) ∉ source.names := by
  intro used
  obtain ⟨second, rest, rfl⟩ := List.exists_cons_of_ne_nil nested
  have dotted : '.' ∈ joinWith ['.'] (name :: second :: rest) := by
    simp [Text.joinWith_cons_cons]
  cases reaches with
  | @inside before label value behind close _ front _ later =>
    have own : (label, value) ∈ before ++ (label, value) :: behind := List.mem_append_cons_self
    obtain ⟨member, inside, used⟩ := mem_names_object.mp used
    obtain ⟨top, undotted⟩ := dots member inside
    rcases List.mem_cons.mp used with same | deeper
    · -- The member at the top that has this name is a leaf with the same key.
      rw [← same] at top
      have flat := top.resolve_right (absurd dotted)
      have other : (label, value) ≠ member := by
        rintro rfl
        cases flat.symm.trans later.isScalar_eq
      have filledLabel := filled _ (name_mem_names own close)
      obtain ⟨leaf, below, key⟩ := later.exists_leaf scalar (fresh.values _ own)
        (fun name used => filled name (names_subset own close used))
        (List.forall_mem_singleton.mpr filledLabel)
      obtain ⟨leaf', below', key'⟩ :=
        exists_leaf_of_scalar flat (filled _ (name_mem_names inside close))
      exact fresh.key_ne distinct own inside other below below'
        (key.trans (same.trans key'.symm))
    · exact undotted _ deeper dotted

end LocaleLint.Json.Source
