import Mathlib
import LocaleLint.Proofs.Json.RoundTrip
import LocaleLint.Proofs.Text.Lists
import LocaleLint.Settings.Format

/-!
# Layers as JSON

A layer that is read from sound values is sound: its numbers can be printed, and no path that it
ignores is a list of several ones. A sound layer is read as it has been written, and what it is
written as is sound.
-/

namespace LocaleLint

open Json (Mismatch)

/-! ## Values -/

namespace Json

variable {α : Type} {read : Json → Except Mismatch α}

theorem read_of_toOption {value : Json} {a : α} (decoded : value.toOption read = .ok (some a)) :
    read value = .ok a := by
  unfold toOption at decoded
  split at decoded
  · cases decoded
  · obtain ⟨_, first, made⟩ := map_eq_ok.mp decoded
    cases made
    exact first

theorem toTexts_ofTexts (texts : List Text) : (ofTexts texts).toTexts = .ok texts :=
  mapM_eq_ok.mpr (List.forall₂_map_left_iff.mpr (List.forall₂_same.mpr fun _ _ => rfl))

theorem sound_ofTexts (texts : List Text) : (ofTexts texts).Sound := by
  refine .array fun item inside => ?_
  obtain ⟨text, _, rfl⟩ := List.mem_map.mp inside
  exact .string text

theorem depth_ofTexts (texts : List Text) : (ofTexts texts).depth ≤ 1 := by
  refine Nat.succ_le_succ (depthItems_le.mpr fun item inside => ?_)
  obtain ⟨text, _, rfl⟩ := List.mem_map.mp inside
  exact Nat.zero_le 0

theorem doubles_ofTexts (texts : List Text) : (ofTexts texts).doubles = [] := by
  refine List.eq_nil_iff_forall_not_mem.mpr fun x among => ?_
  obtain ⟨item, inside, among⟩ := mem_doubles_array.mp among
  obtain ⟨text, _, rfl⟩ := List.mem_map.mp inside
  cases among

/-- A whole number of 64 bits is near a finite double. -/
theorem Number.toDouble_isNormal_of_isReadable {n : Number} (readable : n.IsReadable) :
    n.toDouble.IsNormal := by
  cases n with
  | double x => exact readable
  | integer n =>
    refine Double.nearest_isNormal_of_small _ one_pos ?_
    obtain ⟨lower, upper⟩ := readable
    have small : n.natAbs ≤ 2 ^ 64 := by omega
    rw [Nat.cast_one, div_one]
    calc (n.natAbs : ℚ) ≤ (2 ^ 64 : Nat) := Nat.cast_le.mpr small
      _ = 2 ^ (64 : Int) := by norm_num
      _ < 2 ^ (1023 : Int) := zpow_lt_zpow_right₀ (by norm_num) (by norm_num)

theorem lt_of_toCount {value : Json} (sound : value.Sound) {n : Nat}
    (decoded : value.toCount = .ok n) : n < 2 ^ 64 := by
  cases sound with
  | number readable =>
    rename_i number
    cases number with
    | double x => cases decoded
    | integer k =>
      change (if k < 0 then _ else _) = _ at decoded
      split at decoded
      · cases decoded
      · cases decoded
        have upper : k < 2 ^ 64 := readable.2
        omega
  | _ => cases decoded

theorem isNormal_of_toDouble {value : Json} (sound : value.Sound) {x : Double}
    (decoded : value.toDouble = .ok x) : x.IsNormal := by
  cases sound with
  | number readable =>
    cases decoded
    exact Number.toDouble_isNormal_of_isReadable readable
  | _ => cases decoded

end Json

/-! ## The fields of the rules -/

namespace RuleLayer

/-- The numbers of a layer can be printed. -/
structure Sound (layer : RuleLayer) : Prop where
  maxWarnings : ∀ n, layer.maxWarnings = some n → n < 2 ^ 64
  misprintCoefficient : ∀ x, layer.misprintCoefficient = some x → x.IsNormal

/-- A layer with one more field as another layer sets it, if that does. -/
def put (target source : RuleLayer) : RuleField → RuleLayer
  | .zombie => { target with zombie := source.zombie.or target.zombie }
  | .absent => { target with absent := source.absent.or target.absent }
  | .misprint => { target with misprint := source.misprint.or target.misprint }
  | .empty => { target with empty := source.empty.or target.empty }
  | .maxWarnings => { target with maxWarnings := source.maxWarnings.or target.maxWarnings }
  | .deepSearch => { target with deepSearch := source.deepSearch.or target.deepSearch }
  | .misprintCoefficient =>
    { target with
      misprintCoefficient := source.misprintCoefficient.or target.misprintCoefficient }
  | .ignoredKeys => { target with ignoredKeys := source.ignoredKeys.or target.ignoredKeys }
  | .ignoredMisprints =>
    { target with ignoredMisprints := source.ignoredMisprints.or target.ignoredMisprints }
  | .customPatterns =>
    { target with customPatterns := source.customPatterns.or target.customPatterns }

variable {source target : RuleLayer} {field : RuleField} {value : Json}

theorem put_of_unset (unset : source.fieldJson? field = none) : target.put source field = target := by
  cases field <;> simp [put, Option.map_eq_none_iff.mp unset]

theorem toOption_level (level : Level) :
    (Json.string level.word).toOption (Json.toWord Level.words) = .ok (some level) := by
  cases level <;> rfl

theorem toOption_toggle (toggle : Toggle) :
    (Json.string toggle.word).toOption (Json.toWord Toggle.words) = .ok (some toggle) := by
  cases toggle <;> rfl

theorem toOption_texts (texts : List Text) :
    (Json.ofTexts texts).toOption Json.toTexts = .ok (some texts) :=
  congrArg (Except.map some) (Json.toTexts_ofTexts texts)

/-- A field is read as it has been written. -/
theorem decodeField_fieldJson? (written : source.fieldJson? field = some value) :
    target.decodeField value field = .ok (target.put source field) := by
  cases field <;> obtain ⟨a, set, rfl⟩ := Option.map_eq_some_iff.mp written <;> rw [put, set]
  case zombie | absent | misprint | empty => exact bind_eq_ok.mpr ⟨_, toOption_level a, rfl⟩
  case maxWarnings | misprintCoefficient => rfl
  case deepSearch => exact bind_eq_ok.mpr ⟨_, toOption_toggle a, rfl⟩
  case ignoredKeys | ignoredMisprints | customPatterns =>
    exact bind_eq_ok.mpr ⟨_, toOption_texts a, rfl⟩

theorem ofName?_name (field : RuleField) : RuleField.ofName? field.name = some field := by
  cases field <;> rfl

theorem name_injective : Function.Injective RuleField.name := fun field other same =>
  Option.some.inj ((ofName?_name field).symm.trans (same ▸ ofName?_name other))

/-- The fields that are set are read one after another. -/
theorem decodeMembers_fieldJson? (source target : RuleLayer) (fields : List RuleField) :
    (fields.filterMap fun field =>
      (source.fieldJson? field).map fun value => (field.name, value)).foldlM decodeMember target =
        .ok (fields.foldl (·.put source ·) target) := by
  induction fields generalizing target with
  | nil => rfl
  | cons field rest ih =>
    cases written : source.fieldJson? field with
    | none =>
      rw [List.filterMap_cons_none (by rw [written]; rfl), ih, List.foldl_cons,
        put_of_unset written]
    | some value =>
      have first : target.decodeMember (field.name, value) = .ok (target.put source field) := by
        rw [decodeMember, ofName?_name]
        exact decodeField_fieldJson? written
      rw [List.filterMap_cons_some (by rw [written]; rfl), List.foldlM_cons, first]
      exact ih _

/-- A layer of rules is read as it has been written. -/
theorem decode_toJson (layer : RuleLayer) : decode layer.toJson = .ok layer := by
  have fields : RuleField.all.foldl (·.put layer ·) {} = layer := by
    simp [RuleField.all, put]
  exact (decodeMembers_fieldJson? layer {} RuleField.all).trans (congrArg _ fields)

/-! ## Sound fields of the rules -/

/-- A field that is read from a sound value is sound. -/
theorem sound_decodeField {after : RuleLayer} (sound : target.Sound) (values : value.Sound)
    (decoded : target.decodeField value field = .ok after) : after.Sound := by
  obtain ⟨maxWarnings, misprintCoefficient⟩ := sound
  cases field <;> obtain ⟨a, read, made⟩ := bind_eq_ok.mp decoded <;> cases made
  case maxWarnings =>
    refine ⟨fun n set => ?_, misprintCoefficient⟩
    cases set
    exact Json.lt_of_toCount values (Json.read_of_toOption read)
  case misprintCoefficient =>
    refine ⟨maxWarnings, fun x set => ?_⟩
    cases set
    exact Json.isNormal_of_toDouble values (Json.read_of_toOption read)
  all_goals exact ⟨maxWarnings, misprintCoefficient⟩

theorem sound_empty : RuleLayer.Sound {} := ⟨nofun, nofun⟩

theorem sound_decodeItems {fields : List RuleField} {items : List Json} {after : RuleLayer}
    (sound : target.Sound) (values : ∀ item ∈ items, item.Sound)
    (decoded : decodeItems fields items target = .ok after) : after.Sound := by
  induction fields generalizing items target with
  | nil =>
    cases decoded
    exact sound
  | cons field rest ih =>
    cases items with
    | nil => cases decoded
    | cons item items =>
      obtain ⟨next, first, later⟩ := bind_eq_ok.mp decoded
      exact ih (sound_decodeField sound (values item List.mem_cons_self) first)
        (fun other inside => values other (List.mem_cons_of_mem item inside)) later

/-- A layer of rules that is read from a sound value is sound. -/
theorem sound_decode {layer : RuleLayer} (sound : value.Sound) (decoded : decode value = .ok layer) :
    layer.Sound := by
  cases sound with
  | object distinct values =>
    refine foldlM_preserves (fun member inside {before after} sound decoded => ?_) sound_empty
      decoded
    unfold decodeMember at decoded
    split at decoded
    · exact sound_decodeField sound (values member inside) decoded
    · cases decoded
  | array values =>
    obtain ⟨after, read, decoded⟩ := bind_eq_ok.mp decoded
    split at decoded
    · cases decoded
    · cases decoded
      exact sound_decodeItems sound_empty values read
  | _ => cases decoded

/-- Each member that is written of a layer of rules is that of a field. -/
theorem exists_field {layer : RuleLayer} {member : Text × Json}
    (inside : member ∈ RuleField.all.filterMap fun field =>
      (layer.fieldJson? field).map fun value => (field.name, value)) :
    ∃ field, layer.fieldJson? field = some member.2 := by
  obtain ⟨field, _, made⟩ := List.mem_filterMap.mp inside
  obtain ⟨value, written, rfl⟩ := Option.map_eq_some_iff.mp made
  exact ⟨field, written⟩

/-- The coefficient is the only double that is written of a layer of rules. -/
theorem coefficient_of_mem_doubles {layer : RuleLayer} {x : Double}
    (among : x ∈ layer.toJson.doubles) : layer.misprintCoefficient = some x := by
  obtain ⟨member, inside, among⟩ := Json.mem_doubles_object.mp among
  obtain ⟨field, written⟩ := exists_field inside
  generalize member.2 = value at written among
  cases field <;> obtain ⟨a, set, rfl⟩ := Option.map_eq_some_iff.mp written
  case misprintCoefficient =>
    rw [List.mem_singleton.mp among]
    exact set
  case ignoredKeys | ignoredMisprints | customPatterns =>
    rw [Json.doubles_ofTexts] at among
    cases among
  all_goals cases among

/-- What is written of a sound layer of rules is sound, and so is what is in it. -/
theorem sound_toJson {layer : RuleLayer} (sound : layer.Sound) :
    layer.toJson.Sound ∧ layer.toJson.depth ≤ 2 := by
  -- The two numbers are the only fields whose text is not read back in any case.
  have values : ∀ {field value}, layer.fieldJson? field = some value →
      value.Sound ∧ value.depth ≤ 1 := by
    intro field value written
    cases field <;> obtain ⟨a, set, rfl⟩ := Option.map_eq_some_iff.mp written
    case maxWarnings =>
      have fits := sound.maxWarnings a set
      exact ⟨.number ⟨by omega, by omega⟩, Nat.zero_le 1⟩
    case misprintCoefficient => exact ⟨.number (sound.misprintCoefficient a set), Nat.zero_le 1⟩
    case zombie | absent | misprint | empty | deepSearch => exact ⟨.string _, Nat.zero_le 1⟩
    case ignoredKeys | ignoredMisprints | customPatterns =>
      exact ⟨Json.sound_ofTexts a, Json.depth_ofTexts a⟩
  refine ⟨.object ?_ fun member inside => ?_, Nat.succ_le_succ (Json.depthMembers_le.mpr ?_)⟩
  · rw [List.map_filterMap]
    refine List.Nodup.filterMap (fun field other name first second => ?_)
      (by decide : RuleField.all.Nodup)
    obtain ⟨_, _, rfl⟩ : ∃ value, layer.fieldJson? field = some value ∧ field.name = name := by
      simpa using first
    obtain ⟨_, _, same⟩ : ∃ value, layer.fieldJson? other = some value ∧ other.name = field.name := by
      simpa using second
    exact name_injective same.symm
  · obtain ⟨field, written⟩ := exists_field inside
    exact (values written).1
  · intro member inside
    obtain ⟨field, written⟩ := exists_field inside
    exact (values written).2

end RuleLayer

/-! ## Layers -/

namespace Layer

/-- The items of what a layer ignores are the only items of themselves, and the numbers of the rules
can be printed. -/
structure Sound (layer : Layer) : Prop where
  ignore : ∀ items, layer.ignore = some items → ∀ item ∈ items, Text.listItems item = [item]
  rules : layer.rules.Sound

theorem sound_empty : Layer.Sound {} := ⟨nofun, RuleLayer.sound_empty⟩

def optional (name : String) (value : Option Json) : Json.Members :=
  (value.map fun value => (name.toList, value)).toList

/-- The members of the object that a layer is written as. -/
def members (layer : Layer) : Json.Members :=
  optional "project" (layer.project.map .string) ++
    optional "languages" (layer.languages.map .string) ++
    optional "ignore" (layer.ignore.map .ofTexts) ++
    optional "fixZombiesKeys" (layer.fixZombies.map .bool) ++
    optional "rules" (some layer.rules.toJson)

theorem mem_optional {name : String} {value : Option Json} {member : Text × Json}
    (inside : member ∈ optional name value) : member.1 = name.toList ∧ value = some member.2 := by
  obtain ⟨other, set, rfl⟩ := Option.map_eq_some_iff.mp (Option.mem_toList.mp inside)
  exact ⟨rfl, set⟩

theorem names_optional (name : String) (value : Option Json) :
    ((optional name value).map Prod.fst).Sublist [name.toList] := by
  cases value with
  | none => exact List.nil_sublist _
  | some value => exact List.Sublist.refl _

theorem names_members (layer : Layer) : (layer.members.map Prod.fst).Sublist fieldNames := by
  simp only [members, List.map_append]
  exact ((((names_optional _ _).append (names_optional _ _)).append (names_optional _ _)).append
    (names_optional _ _)).append (names_optional _ _)

/-- The paths of a list are those of each of its items. -/
theorem decodeList_ofTexts (items : List Text) :
    decodeList (Json.ofTexts items) = .ok (items.flatMap Text.listItems) := by
  have strings : (items.map Json.string).mapM Json.string? = some items := by
    induction items with
    | nil => rfl
    | cons item rest ih => simp [List.mapM_cons, ih, Json.string?]
  rw [Json.ofTexts, decodeList, strings]

/-- A list of paths is read as it has been written, if no path is a list of several ones. -/
theorem decodeList_of_plain {items : List Text}
    (plain : ∀ item ∈ items, Text.listItems item = [item]) :
    decodeList (Json.ofTexts items) = .ok items := by
  rw [decodeList_ofTexts, List.flatMap_congr plain]
  exact congrArg Except.ok (List.flatMap_singleton' items)

/-- The members that a layer is written as are read one after another. -/
theorem decodeMembers_members {layer : Layer} (sound : layer.Sound) :
    layer.members.foldlM Open.decodeMember {} =
      .ok ⟨{ layer with rules := {} }, some layer.rules⟩ := by
  -- Each member fills its own place, and the places of absent members stay empty.
  have project : (optional "project" (layer.project.map .string)).foldlM Open.decodeMember {} =
      .ok ⟨{ project := layer.project }, none⟩ := by
    cases layer.project <;> rfl
  have languages : (optional "languages" (layer.languages.map .string)).foldlM Open.decodeMember
      ⟨{ project := layer.project }, none⟩ =
        .ok ⟨{ project := layer.project, languages := layer.languages }, none⟩ := by
    cases layer.languages <;> rfl
  have ignore : (optional "ignore" (layer.ignore.map .ofTexts)).foldlM Open.decodeMember
      ⟨{ project := layer.project, languages := layer.languages }, none⟩ =
        .ok ⟨{ layer with fixZombies := none, rules := {} }, none⟩ := by
    cases set : layer.ignore with
    | none => rfl
    | some items =>
      have read : (Json.ofTexts items).toOption decodeList = .ok (some items) :=
        congrArg (Except.map some) (decodeList_of_plain (sound.ignore items set))
      exact bind_eq_ok.mpr ⟨_, bind_eq_ok.mpr ⟨_, read, rfl⟩, rfl⟩
  have fixZombies : (optional "fixZombiesKeys" (layer.fixZombies.map .bool)).foldlM
      Open.decodeMember ⟨{ layer with fixZombies := none, rules := {} }, none⟩ =
        .ok ⟨{ layer with rules := {} }, none⟩ := by
    cases layer.fixZombies <;> rfl
  have rules : (optional "rules" (some layer.rules.toJson)).foldlM Open.decodeMember
      ⟨{ layer with rules := {} }, none⟩ = .ok ⟨{ layer with rules := {} }, some layer.rules⟩ := by
    have read : layer.rules.toJson.toOption RuleLayer.decode = .ok (some layer.rules) :=
      congrArg (Except.map some) layer.rules.decode_toJson
    exact bind_eq_ok.mpr ⟨_, bind_eq_ok.mpr ⟨_, read, rfl⟩, rfl⟩
  simp only [members, List.foldlM_append]
  exact bind_eq_ok.mpr ⟨_, bind_eq_ok.mpr ⟨_, bind_eq_ok.mpr ⟨_, bind_eq_ok.mpr
    ⟨_, project, languages⟩, ignore⟩, fixZombies⟩, rules⟩

/-- A sound layer is read as it has been written. -/
theorem decode_members {layer : Layer} (sound : layer.Sound) : decode layer.members = .ok layer := by
  have named : ∀ member ∈ layer.members, member.1 ∈ fieldNames := fun member inside =>
    layer.names_members.mem (List.mem_map_of_mem inside)
  have partition : layer.members.partition (fun member => fieldNames.contains member.1) =
      (layer.members, []) := by
    rw [List.partition_eq_filter_filter, List.filter_eq_self.mpr (by simpa using named),
      List.filter_eq_nil_iff.mpr (by simpa using named)]
  unfold decode
  rw [partition]
  exact bind_eq_ok.mpr ⟨_, decodeMembers_members sound, rfl⟩

/-! ## Sound layers -/

/-- What is read as a list of paths is a list of single ones. -/
theorem listItems_of_decodeList {value : Json} {items : List Text}
    (decoded : decodeList value = .ok items) : ∀ item ∈ items, Text.listItems item = [item] := by
  intro item inside
  unfold decodeList at decoded
  split at decoded
  · cases decoded
    exact Text.listItems_of_mem inside
  · split at decoded
    · cases decoded
      obtain ⟨_, _, inside⟩ := List.mem_flatMap.mp inside
      exact Text.listItems_of_mem inside
    · cases decoded
  · cases decoded

/-- What has been read of a layer so far is sound. -/
structure Open.Sound (opened : Open) : Prop where
  layer : opened.layer.Sound
  rules : ∀ rules, opened.rules = some rules → rules.Sound

theorem Open.sound_empty : Open.Sound {} := ⟨Layer.sound_empty, fun _ set => by cases set⟩

theorem sound_decodeMember {opened after : Open} {member : Text × Json} (sound : opened.Sound)
    (value : member.2.Sound) (decoded : opened.decodeMember member = .ok after) : after.Sound := by
  obtain ⟨⟨ignore, own⟩, rules⟩ := sound
  obtain ⟨name, value'⟩ := member
  unfold Open.decodeMember at decoded
  dsimp only at decoded
  split at decoded
  · obtain ⟨project, -, made⟩ := bind_eq_ok.mp decoded
    cases made
    exact ⟨⟨ignore, own⟩, rules⟩
  split at decoded
  · obtain ⟨languages, -, made⟩ := bind_eq_ok.mp decoded
    cases made
    exact ⟨⟨ignore, own⟩, rules⟩
  split at decoded
  · obtain ⟨paths, read, made⟩ := bind_eq_ok.mp decoded
    cases made
    refine ⟨⟨fun items set => ?_, own⟩, rules⟩
    cases set
    exact listItems_of_decodeList (Json.read_of_toOption read)
  split at decoded
  · obtain ⟨fixZombies, -, made⟩ := bind_eq_ok.mp decoded
    cases made
    exact ⟨⟨ignore, own⟩, rules⟩
  split at decoded
  · obtain ⟨nested, read, made⟩ := bind_eq_ok.mp decoded
    cases made
    refine ⟨⟨ignore, own⟩, fun layer set => ?_⟩
    cases set
    exact RuleLayer.sound_decode value (Json.read_of_toOption read)
  · cases decoded

/-- A layer that is read from sound values is sound. -/
theorem sound_decode {members : Json.Members} {layer : Layer}
    (distinct : (members.map Prod.fst).Nodup) (values : ∀ member ∈ members, member.2.Sound)
    (decoded : decode members = .ok layer) : layer.Sound := by
  unfold decode at decoded
  rw [List.partition_eq_filter_filter] at decoded
  obtain ⟨opened, named, decoded⟩ := bind_eq_ok.mp decoded
  obtain ⟨rules, flat, decoded⟩ := bind_eq_ok.mp decoded
  have openedSound : opened.Sound :=
    foldlM_preserves (fun member inside {_ _} sound decoded =>
      sound_decodeMember sound (values member (List.mem_filter.mp inside).1) decoded)
      Open.sound_empty named
  have rulesSound : rules.Sound :=
    RuleLayer.sound_decode (.object ((List.filter_sublist.map _).nodup distinct)
      fun member inside => values member (List.mem_filter.mp inside).1) flat
  split at decoded
  · cases decoded
    exact ⟨openedSound.layer.ignore, rulesSound⟩
  · next nested set =>
    split at decoded
    · cases decoded
      exact ⟨openedSound.layer.ignore, openedSound.rules nested set⟩
    · cases decoded

/-- The values that a layer is written with: texts, a flag, lists of texts, and its rules. -/
theorem cases_of_mem_members {layer : Layer} {member : Text × Json}
    (inside : member ∈ layer.members) :
    (∃ text, member.2 = .string text) ∨ (∃ items, member.2 = .ofTexts items) ∨
      (∃ flag, member.2 = .bool flag) ∨ member.2 = layer.rules.toJson := by
  simp only [members, List.mem_append] at inside
  obtain (((inside | inside) | inside) | inside) | inside := inside
  · obtain ⟨text, _, same⟩ := Option.map_eq_some_iff.mp (mem_optional inside).2
    exact .inl ⟨text, same.symm⟩
  · obtain ⟨text, _, same⟩ := Option.map_eq_some_iff.mp (mem_optional inside).2
    exact .inl ⟨text, same.symm⟩
  · obtain ⟨items, _, same⟩ := Option.map_eq_some_iff.mp (mem_optional inside).2
    exact .inr (.inl ⟨items, same.symm⟩)
  · obtain ⟨flag, _, same⟩ := Option.map_eq_some_iff.mp (mem_optional inside).2
    exact .inr (.inr (.inl ⟨flag, same.symm⟩))
  · exact .inr (.inr (.inr (Option.some.inj (mem_optional inside).2).symm))

/-- What a sound layer is written as is sound, and does not nest deep. -/
theorem sound_toJson {layer : Layer} (sound : layer.Sound) :
    layer.toJson.Sound ∧ layer.toJson.depth ≤ 3 := by
  have values : ∀ member ∈ layer.members, member.2.Sound ∧ member.2.depth ≤ 2 := by
    intro member inside
    obtain ⟨text, value⟩ | ⟨items, value⟩ | ⟨flag, value⟩ | value := cases_of_mem_members inside
    · rw [value]
      exact ⟨.string text, Nat.zero_le 2⟩
    · rw [value]
      exact ⟨Json.sound_ofTexts items, (Json.depth_ofTexts items).trans one_le_two⟩
    · rw [value]
      exact ⟨.bool flag, Nat.zero_le 2⟩
    · rw [value]
      exact RuleLayer.sound_toJson sound.rules
  exact ⟨.object (layer.names_members.nodup (by decide)) fun member inside => (values member inside).1,
    Nat.succ_le_succ (Json.depthMembers_le.mpr fun member inside => (values member inside).2)⟩

/-- The coefficient of a layer, if it has one, is read back from the text that it is printed as. -/
def ReadsBack (layer : Layer) : Prop :=
  ∀ x, layer.rules.misprintCoefficient = some x → Json.IsReadBack x

theorem readsBack_toJson {layer : Layer} (back : layer.ReadsBack) : layer.toJson.ReadsBack := by
  intro x among
  obtain ⟨member, inside, among⟩ := Json.mem_doubles_object.mp among
  obtain ⟨text, value⟩ | ⟨items, value⟩ | ⟨flag, value⟩ | value := cases_of_mem_members inside
  · rw [value] at among
    cases among
  · rw [value, Json.doubles_ofTexts] at among
    cases among
  · rw [value] at among
    cases among
  · rw [value] at among
    exact back x (RuleLayer.coefficient_of_mem_doubles among)

end Layer

end LocaleLint
