import Mathlib
import LocaleLint.Json.Reader
import LocaleLint.Proofs.Except
import LocaleLint.Proofs.Json.Number

/-!
# The values of texts

A value that has been read is sound: the names of each object are distinct, and its numbers can be
printed. Its containers nest no deeper than the reader allows, and a greater limit changes nothing
for a text that is read within a smaller one. That doubles are read back from their texts is not
true of all of them, so it is a property of values that has to be assumed.
-/

namespace LocaleLint.Json

/-- The values that texts stand for. -/
inductive Sound : Json → Prop
  | null : Sound null
  | bool (value : Bool) : Sound (bool value)
  | number {n : Number} (readable : n.IsReadable) : Sound (number n)
  | string (s : Text) : Sound (string s)
  | array {items : List Json} (values : ∀ item ∈ items, Sound item) : Sound (array items)
  | object {members : Members} (distinct : (members.map Prod.fst).Nodup)
      (values : ∀ member ∈ members, Sound member.2) : Sound (object members)

mutual

/-- How deep containers nest in a value. -/
def depth : Json → Nat
  | array items => depthItems items + 1
  | object members => depthMembers members + 1
  | _ => 0

/-- How deep containers nest in the items of an array. -/
def depthItems : List Json → Nat
  | [] => 0
  | item :: rest => max (depth item) (depthItems rest)

/-- How deep containers nest in the members of an object. -/
def depthMembers : List (Text × Json) → Nat
  | [] => 0
  | (_, value) :: rest => max (depth value) (depthMembers rest)

end

theorem depthItems_le {items : List Json} {limit : Nat} :
    depthItems items ≤ limit ↔ ∀ item ∈ items, item.depth ≤ limit := by
  induction items with
  | nil => simp [depthItems]
  | cons item rest ih => simp [depthItems, ih]

theorem depthMembers_le {members : Members} {limit : Nat} :
    depthMembers members ≤ limit ↔ ∀ member ∈ members, member.2.depth ≤ limit := by
  induction members with
  | nil => simp [depthMembers]
  | cons member rest ih => simp [depthMembers, ih]

mutual

def doubles : Json → List Double
  | number (.double x) => [x]
  | array items => doublesItems items
  | object members => doublesMembers members
  | _ => []

def doublesItems : List Json → List Double
  | [] => []
  | item :: rest => doubles item ++ doublesItems rest

def doublesMembers : List (Text × Json) → List Double
  | [] => []
  | (_, value) :: rest => doubles value ++ doublesMembers rest

end

theorem mem_doubles_array {items : List Json} {x : Double} :
    x ∈ (array items).doubles ↔ ∃ item ∈ items, x ∈ item.doubles := by
  rw [doubles]
  induction items with
  | nil => simp [doublesItems]
  | cons item rest ih => simp [doublesItems, ih]

theorem mem_doubles_object {members : Members} {x : Double} :
    x ∈ (object members).doubles ↔ ∃ member ∈ members, x ∈ member.2.doubles := by
  rw [doubles]
  induction members with
  | nil => simp [doublesMembers]
  | cons member rest ih => simp [doublesMembers, ih]

/-- A double is read from the text that it is printed as. -/
def IsReadBack (x : Double) : Prop :=
  ofText (Number.text (.double x)) = .ok (number (.double x))

/-- All doubles in a value are read from the texts that they are printed as. -/
def ReadsBack (value : Json) : Prop := ∀ x ∈ value.doubles, IsReadBack x

theorem ReadsBack.item {items : List Json} (back : (array items).ReadsBack) {item : Json}
    (inside : item ∈ items) : item.ReadsBack :=
  fun x among => back x (mem_doubles_array.mpr ⟨item, inside, among⟩)

theorem ReadsBack.member {members : Members} (back : (object members).ReadsBack)
    {member : Text × Json} (inside : member ∈ members) : member.2.ReadsBack :=
  fun x among => back x (mem_doubles_object.mpr ⟨member, inside, among⟩)

namespace Members

theorem map_fst_insert (name : Text) (value : Json) (members : Members) :
    (insert name value members).map Prod.fst =
      if name ∈ members.map Prod.fst then members.map Prod.fst
      else members.map Prod.fst ++ [name] := by
  induction members with
  | nil => simp [insert]
  | cons member rest ih =>
    obtain ⟨n, v⟩ := member
    by_cases same : n = name
    · simp [insert, same]
    · have other : name ≠ n := fun equal => same equal.symm
      simp only [insert, same, if_false, List.map_cons, ih, List.mem_cons, other, false_or]
      split <;> rfl

theorem mem_insert {name : Text} {value : Json} {members : Members} {member : Text × Json}
    (inside : member ∈ insert name value members) : member = (name, value) ∨ member ∈ members := by
  induction members with
  | nil => exact .inl (List.mem_singleton.mp inside)
  | cons first rest ih =>
    obtain ⟨n, v⟩ := first
    by_cases same : n = name
    · simp only [insert, same, if_true, List.mem_cons] at inside ⊢
      exact inside.imp id .inr
    · simp only [insert, same, if_false, List.mem_cons] at inside
      rcases inside with rfl | later
      · exact .inr List.mem_cons_self
      · exact (ih later).imp id (List.mem_cons_of_mem _)

theorem nodup_insert (name : Text) (value : Json) {members : Members}
    (distinct : (members.map Prod.fst).Nodup) :
    ((insert name value members).map Prod.fst).Nodup := by
  rw [map_fst_insert]
  split
  · exact distinct
  · rename_i fresh
    simp only [List.nodup_append, distinct, List.nodup_singleton, true_and]
    intro n inside m single
    rw [List.mem_singleton.mp single]
    rintro rfl
    exact fresh inside

private theorem foldl_insert {members pairs : Members}
    (distinct : (members.map Prod.fst).Nodup) :
    ((pairs.foldl (fun members (name, value) => insert name value members) members).map
      Prod.fst).Nodup ∧
    ∀ member ∈ pairs.foldl (fun members (name, value) => insert name value members) members,
      member ∈ members ∨ member ∈ pairs := by
  induction pairs generalizing members with
  | nil => exact ⟨distinct, fun _ inside => .inl inside⟩
  | cons pair rest ih =>
    obtain ⟨names, origin⟩ := ih (nodup_insert pair.1 pair.2 distinct)
    refine ⟨names, fun member inside => ?_⟩
    rcases origin member inside with before | behind
    · rcases mem_insert before with rfl | old
      · exact .inr List.mem_cons_self
      · exact .inl old
    · exact .inr (List.mem_cons_of_mem pair behind)

theorem nodup_ofPairs (pairs : List (Text × Json)) : ((ofPairs pairs).map Prod.fst).Nodup :=
  (@foldl_insert [] pairs List.nodup_nil).1

theorem mem_of_mem_ofPairs {pairs : List (Text × Json)} {member : Text × Json}
    (inside : member ∈ ofPairs pairs) : member ∈ pairs :=
  ((@foldl_insert [] pairs List.nodup_nil).2 member inside).resolve_left List.not_mem_nil

theorem insert_of_notMem {name : Text} (value : Json) {members : Members}
    (fresh : name ∉ members.map Prod.fst) :
    insert name value members = members ++ [(name, value)] := by
  induction members with
  | nil => rfl
  | cons member rest ih =>
    obtain ⟨n, v⟩ := member
    have other : n ≠ name := fun same => fresh (by simp [same])
    have later := ih fun inside => fresh (List.mem_cons_of_mem n inside)
    simp [insert, other, later]

private theorem foldl_insert_of_nodup {members pairs : Members}
    (distinct : ((members ++ pairs).map Prod.fst).Nodup) :
    pairs.foldl (fun members (name, value) => insert name value members) members =
      members ++ pairs := by
  induction pairs generalizing members with
  | nil => simp
  | cons pair rest ih =>
    obtain ⟨name, value⟩ := pair
    have fresh : name ∉ members.map Prod.fst := by
      intro inside
      rw [List.map_append, List.map_cons] at distinct
      exact (List.nodup_append.mp distinct).2.2 _ inside _ List.mem_cons_self rfl
    dsimp only [List.foldl_cons]
    rw [insert_of_notMem value fresh, ih]
    · simp
    · simpa using distinct

/-- Members with distinct names are read as they are. -/
theorem ofPairs_eq_self {pairs : Members} (distinct : (pairs.map Prod.fst).Nodup) :
    ofPairs pairs = pairs :=
  @foldl_insert_of_nodup [] pairs distinct

end Members

section

variable {readItem readItem' : Text → Scan (Json × Text)} {P : Json → Prop}

theorem readItems_forall (each : ∀ {text item rest}, readItem text = .ok (item, rest) → P item)
    {fuel : Nat} {first : Bool} {text rest : Text} {items : List Json}
    (read : readItems readItem fuel first text = .ok (items, rest)) : ∀ item ∈ items, P item := by
  induction fuel generalizing first text items with
  | zero => cases read
  | succ fuel ih =>
    obtain ⟨next, _, read⟩ := bind_eq_ok.mp read
    cases next with
    | inr rest =>
      cases read
      exact nofun
    | inl text =>
      obtain ⟨⟨item, _⟩, readFirst, read⟩ := bind_eq_ok.mp read
      obtain ⟨⟨others, _⟩, readOthers, read⟩ := bind_eq_ok.mp read
      cases read
      intro x inside
      rcases List.mem_cons.mp inside with rfl | later
      · exact each readFirst
      · exact ih readOthers x later

theorem readMembers_forall (each : ∀ {text item rest}, readItem text = .ok (item, rest) → P item)
    {fuel : Nat} {first : Bool} {text rest : Text} {members : List (Text × Json)}
    (read : readMembers readItem fuel first text = .ok (members, rest)) :
    ∀ member ∈ members, P member.2 := by
  induction fuel generalizing first text members with
  | zero => cases read
  | succ fuel ih =>
    obtain ⟨next, _, read⟩ := bind_eq_ok.mp read
    cases next with
    | inr rest =>
      cases read
      exact nofun
    | inl text =>
      obtain ⟨⟨name, _⟩, _, read⟩ := bind_eq_ok.mp read
      obtain ⟨_, _, read⟩ := bind_eq_ok.mp read
      obtain ⟨⟨value, _⟩, readFirst, read⟩ := bind_eq_ok.mp read
      obtain ⟨⟨others, _⟩, readOthers, read⟩ := bind_eq_ok.mp read
      cases read
      intro x inside
      rcases List.mem_cons.mp inside with rfl | later
      · exact each readFirst
      · exact ih readOthers x later

/-- What a reader gives is a scalar, or a container of values that the reader of items gives. -/
theorem readWith_cases {reader : Option (Text → Scan (Json × Text))} {text rest : Text}
    {value : Json} (read : readWith reader text = .ok (value, rest)) :
    (Sound value ∧ value.depth = 0) ∨
      ∃ readItem, reader = some readItem ∧
        ((∃ fuel text items, value = array items ∧
            readItems readItem fuel true text = .ok (items, rest)) ∨
          ∃ fuel text members, value = object (Members.ofPairs members) ∧
            readMembers readItem fuel true text = .ok (members, rest)) := by
  unfold readWith at read
  split at read
  · cases read
  · rename_i c others _
    split_ifs at read with container quote minus digit
    · right
      unfold readContainer at read
      cases reader with
      | none => cases read
      | some readItem =>
        refine ⟨readItem, rfl, ?_⟩
        dsimp only at read
        split at read
        · obtain ⟨⟨items, _⟩, readAll, read⟩ := bind_eq_ok.mp read
          cases read
          exact .inl ⟨_, _, items, rfl, readAll⟩
        · obtain ⟨⟨members, _⟩, readAll, read⟩ := bind_eq_ok.mp read
          cases read
          exact .inr ⟨_, _, members, rfl, readAll⟩
    · obtain ⟨⟨s, _⟩, _, read⟩ := bind_eq_ok.mp read
      cases read
      exact .inl ⟨.string s, rfl⟩
    · obtain ⟨⟨n, _⟩, readNumber, read⟩ := bind_eq_ok.mp read
      cases read
      exact .inl ⟨.number (isReadable_of_readUnsigned readNumber), rfl⟩
    · obtain ⟨⟨n, _⟩, readNumber, read⟩ := bind_eq_ok.mp read
      cases read
      exact .inl ⟨.number (isReadable_of_readUnsigned readNumber), rfl⟩
    · left
      split at read
      · obtain ⟨_, _, read⟩ := bind_eq_ok.mp read
        cases read
        exact ⟨.null, rfl⟩
      · obtain ⟨_, _, read⟩ := bind_eq_ok.mp read
        cases read
        exact ⟨.bool true, rfl⟩
      · obtain ⟨_, _, read⟩ := bind_eq_ok.mp read
        cases read
        exact ⟨.bool false, rfl⟩
      · cases read

end

/-- A value that has been read is sound and nests as deep as it may. -/
theorem sound_of_readValue {limit : Nat} {text rest : Text} {value : Json}
    (read : readValue limit text = .ok (value, rest)) : value.Sound ∧ value.depth ≤ limit := by
  induction limit generalizing text value rest with
  | zero =>
    rcases readWith_cases read with ⟨sound, flat⟩ | ⟨_, none, _⟩
    · exact ⟨sound, flat.le⟩
    · cases none
  | succ limit ih =>
    rcases readWith_cases read with ⟨sound, flat⟩ | ⟨readItem, some, container⟩
    · exact ⟨sound, by omega⟩
    · cases some
      rcases container with ⟨_, _, items, rfl, readAll⟩ | ⟨_, _, members, rfl, readAll⟩
      · have each := readItems_forall ih readAll
        refine ⟨.array fun item inside => (each item inside).1, ?_⟩
        have nested := depthItems_le.mpr fun item inside => (each item inside).2
        exact Nat.succ_le_succ nested
      · have each := readMembers_forall ih readAll
        refine ⟨.object (Members.nodup_ofPairs members) fun member inside =>
          (each member (Members.mem_of_mem_ofPairs inside)).1, ?_⟩
        have nested := depthMembers_le.mpr fun member inside =>
          (each member (Members.mem_of_mem_ofPairs inside)).2
        exact Nat.succ_le_succ nested

/-- The value of a text is sound and nests no deeper than the limit. -/
theorem sound_of_ofText {text : Text} {value : Json} (read : ofText text = .ok value) :
    value.Sound ∧ value.depth ≤ depthLimit := by
  obtain ⟨⟨value, rest⟩, readFirst, read⟩ := bind_eq_ok.mp (mapError_eq_ok.mp read)
  obtain ⟨_, _, read⟩ := bind_eq_ok.mp read
  cases read
  exact sound_of_readValue readFirst

section

variable {readItem readItem' : Text → Scan (Json × Text)}

theorem readItems_mono (each : ∀ {text result}, readItem text = .ok result →
      readItem' text = .ok result) {fuel : Nat} {first : Bool} {text : Text}
    {result : List Json × Text} (read : readItems readItem fuel first text = .ok result) :
    readItems readItem' fuel first text = .ok result := by
  induction fuel generalizing first text result with
  | zero => cases read
  | succ fuel ih =>
    obtain ⟨next, found, read⟩ := bind_eq_ok.mp read
    refine bind_eq_ok.mpr ⟨next, found, ?_⟩
    cases next with
    | inr rest => exact read
    | inl text =>
      obtain ⟨item, readFirst, read⟩ := bind_eq_ok.mp read
      obtain ⟨others, readOthers, read⟩ := bind_eq_ok.mp read
      exact bind_eq_ok.mpr ⟨item, each readFirst, bind_eq_ok.mpr ⟨others, ih readOthers, read⟩⟩

theorem readMembers_mono (each : ∀ {text result}, readItem text = .ok result →
      readItem' text = .ok result) {fuel : Nat} {first : Bool} {text : Text}
    {result : List (Text × Json) × Text}
    (read : readMembers readItem fuel first text = .ok result) :
    readMembers readItem' fuel first text = .ok result := by
  induction fuel generalizing first text result with
  | zero => cases read
  | succ fuel ih =>
    obtain ⟨next, found, read⟩ := bind_eq_ok.mp read
    refine bind_eq_ok.mpr ⟨next, found, ?_⟩
    cases next with
    | inr rest => exact read
    | inl text =>
      obtain ⟨name, readName, read⟩ := bind_eq_ok.mp read
      obtain ⟨colon, passed, read⟩ := bind_eq_ok.mp read
      obtain ⟨value, readFirst, read⟩ := bind_eq_ok.mp read
      obtain ⟨others, readOthers, read⟩ := bind_eq_ok.mp read
      exact bind_eq_ok.mpr ⟨name, readName, bind_eq_ok.mpr ⟨colon, passed,
        bind_eq_ok.mpr ⟨value, each readFirst, bind_eq_ok.mpr ⟨others, ih readOthers, read⟩⟩⟩⟩

theorem readWith_mono {reader : Option (Text → Scan (Json × Text))}
    (each : ∀ readItem, reader = some readItem → ∀ {text result}, readItem text = .ok result →
      readItem' text = .ok result) {text : Text} {result : Json × Text}
    (read : readWith reader text = .ok result) : readWith (some readItem') text = .ok result := by
  unfold readWith at read ⊢
  split at read
  · cases read
  · rename_i c others start
    split at read
    · rename_i container
      cases reader with
      | none => cases read
      | some readItem =>
        simp only [container, if_true]
        unfold readContainer at read ⊢
        dsimp only at read ⊢
        split at read
        · rename_i bracket
          obtain ⟨items, readAll, read⟩ := bind_eq_ok.mp read
          rw [if_pos bracket]
          exact bind_eq_ok.mpr ⟨items, readItems_mono (each readItem rfl) readAll, read⟩
        · rename_i brace
          obtain ⟨members, readAll, read⟩ := bind_eq_ok.mp read
          rw [if_neg brace]
          exact bind_eq_ok.mpr ⟨members, readMembers_mono (each readItem rfl) readAll, read⟩
    · rename_i scalar
      simp only [scalar, if_false]
      exact read

end

/-- What is read within a limit is read within a greater one. -/
theorem readValue_mono {small large : Nat} (le : small ≤ large) {text : Text}
    {result : Json × Text} (read : readValue small text = .ok result) :
    readValue large text = .ok result := by
  induction large generalizing small text result with
  | zero =>
    rw [Nat.le_zero.mp le] at read
    exact read
  | succ large ih =>
    cases small with
    | zero =>
      refine readWith_mono (fun readItem some => ?_) read
      cases some
    | succ small =>
      refine readWith_mono (fun readItem some => ?_) read
      cases some
      exact fun readFirst => ih (by omega) readFirst

end LocaleLint.Json
