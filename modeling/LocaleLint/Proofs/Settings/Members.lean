import Mathlib
import LocaleLint.Proofs.Settings.RoundTrip

/-!
# Settings as members of an object

The members of an object of settings may stand in any order. The fields of the rules may stand in a
member of their own or beside the other settings, which makes no difference, but not in both places.
-/

namespace LocaleLint

open Json (Mismatch)

theorem Json.toOption_of_ne_null {α : Type} {read : Json → Except Mismatch α} {value : Json}
    (set : value ≠ .null) : value.toOption read = (read value).map some := by
  cases value with
  | null => exact absurd rfl set
  | _ => rfl

namespace RuleLayer

/-- A layer with a field as another layer has it. -/
def withField (target source : RuleLayer) : RuleField → RuleLayer
  | .zombie => { target with zombie := source.zombie }
  | .absent => { target with absent := source.absent }
  | .misprint => { target with misprint := source.misprint }
  | .empty => { target with empty := source.empty }
  | .maxWarnings => { target with maxWarnings := source.maxWarnings }
  | .deepSearch => { target with deepSearch := source.deepSearch }
  | .misprintCoefficient => { target with misprintCoefficient := source.misprintCoefficient }
  | .ignoredKeys => { target with ignoredKeys := source.ignoredKeys }
  | .ignoredMisprints => { target with ignoredMisprints := source.ignoredMisprints }
  | .customPatterns => { target with customPatterns := source.customPatterns }

theorem withField_comm {field other : RuleField} (apart : field ≠ other)
    (target source source' : RuleLayer) :
    (target.withField source field).withField source' other =
      (target.withField source' other).withField source field := by
  cases field <;> cases other <;> first | rfl | exact absurd rfl apart

/-- A value sets its field alone, and what it sets it to depends on nothing else. -/
theorem decodeField_eq_ok_iff {target after : RuleLayer} {value : Json} {field : RuleField} :
    target.decodeField value field = .ok after ↔
      ∃ source, decodeField {} value field = .ok source ∧ target.withField source field = after := by
  cases field <;> exact return_eq_ok_iff fun _ => by rfl

/-- A layer with the field of a name as another layer has it. -/
def withMember (target source : RuleLayer) (name : Text) : RuleLayer :=
  match RuleField.ofName? name with
  | some field => target.withField source field
  | none => target

theorem withMember_comm {name other : Text} (apart : name ≠ other)
    (target source source' : RuleLayer) :
    (target.withMember source name).withMember source' other =
      (target.withMember source' other).withMember source name := by
  unfold withMember
  cases first : RuleField.ofName? name with
  | none => rfl
  | some field =>
    cases second : RuleField.ofName? other with
    | none => rfl
    | some field' =>
      refine withField_comm (fun same => apart ?_) target source source'
      have named : field.name = name := by simpa using List.find?_some first
      have named' : field'.name = other := by simpa using List.find?_some second
      rw [← named, ← named', same]

theorem decodeMember_eq_ok_iff {target after : RuleLayer} {member : Text × Json} :
    target.decodeMember member = .ok after ↔
      ∃ source, decodeMember {} member = .ok source ∧
        target.withMember source member.1 = after := by
  unfold decodeMember withMember
  cases RuleField.ofName? member.1 with
  | none => simp
  | some field => exact decodeField_eq_ok_iff

/-- The fields of the rules may stand in any order. -/
theorem decode_of_perm {members others : Json.Members} {layer : RuleLayer}
    (perm : members.Perm others) (distinct : (members.map Prod.fst).Nodup)
    (decoded : decode (.object members) = .ok layer) : decode (.object others) = .ok layer :=
  foldlM_eq_ok_of_perm Ne.symm (f := decodeMember)
    (fun {_ _ _} => decodeMember_eq_ok_iff) (fun apart => withMember_comm apart) perm
    (List.pairwise_map.mp distinct) decoded

end RuleLayer

namespace Layer

/-- What a member of an object of settings may set. -/
inductive Setting where
  | project
  | languages
  | ignore
  | fixZombies
  | rules

/-- What a name sets. -/
def Setting.ofName? (name : Text) : Option Setting :=
  if name = "project".toList then some project
  else if name = "languages".toList then some languages
  else if name = "ignore".toList then some ignore
  else if name = "fixZombiesKeys".toList then some fixZombies
  else if name = "rules".toList then some rules
  else none

/-- The name that sets something. -/
def Setting.name : Setting → Text
  | project => "project".toList
  | languages => "languages".toList
  | ignore => "ignore".toList
  | fixZombies => "fixZombiesKeys".toList
  | rules => "rules".toList

theorem Setting.name_of_ofName? {name : Text} {setting : Setting}
    (found : ofName? name = some setting) : name = setting.name := by
  unfold ofName? at found
  repeat' split at found
  all_goals cases found
  all_goals assumption

/-- A layer that is being read, with a setting as another one has it. -/
def Open.withSetting (target source : Open) : Setting → Open
  | .project => { target with layer := { target.layer with project := source.layer.project } }
  | .languages => { target with layer := { target.layer with languages := source.layer.languages } }
  | .ignore => { target with layer := { target.layer with ignore := source.layer.ignore } }
  | .fixZombies =>
    { target with layer := { target.layer with fixZombies := source.layer.fixZombies } }
  | .rules => { target with rules := source.rules }

/-- A layer that is being read, with the setting of a name as another one has it. -/
def Open.withMember (target source : Open) (name : Text) : Open :=
  match Setting.ofName? name with
  | some setting => target.withSetting source setting
  | none => target

theorem Open.withMember_comm {name other : Text} (apart : name ≠ other)
    (target source source' : Open) :
    (target.withMember source name).withMember source' other =
      (target.withMember source' other).withMember source name := by
  unfold Open.withMember
  cases first : Setting.ofName? name with
  | none => rfl
  | some setting =>
    cases second : Setting.ofName? other with
    | none => rfl
    | some setting' =>
      have first := Setting.name_of_ofName? first
      have second := Setting.name_of_ofName? second
      cases setting <;> cases setting' <;>
        first | rfl | exact absurd (first.trans second.symm) apart

/-- A member sets its setting alone, and what it sets it to depends on nothing else. -/
theorem Open.decodeMember_eq_ok_iff {target after : Open} {member : Text × Json} :
    target.decodeMember member = .ok after ↔
      ∃ source, Open.decodeMember {} member = .ok source ∧
        target.withMember source member.1 = after := by
  obtain ⟨name, value⟩ := member
  unfold Open.decodeMember Open.withMember Setting.ofName?
  dsimp only
  by_cases project : name = "project".toList
  · simp only [if_pos project]
    exact return_eq_ok_iff fun _ => by rfl
  by_cases languages : name = "languages".toList
  · simp only [if_neg project, if_pos languages]
    exact return_eq_ok_iff fun _ => by rfl
  by_cases ignore : name = "ignore".toList
  · simp only [if_neg project, if_neg languages, if_pos ignore]
    exact return_eq_ok_iff fun _ => by rfl
  by_cases fixZombies : name = "fixZombiesKeys".toList
  · simp only [if_neg project, if_neg languages, if_neg ignore, if_pos fixZombies]
    exact return_eq_ok_iff fun _ => by rfl
  by_cases rules : name = "rules".toList
  · simp only [if_neg project, if_neg languages, if_neg ignore, if_neg fixZombies, if_pos rules]
    exact return_eq_ok_iff fun _ => by rfl
  · simp only [if_neg project, if_neg languages, if_neg ignore, if_neg fixZombies, if_neg rules]
    refine iff_of_false (fun decoded => ?_) fun ⟨_, decoded, _⟩ => ?_
    · cases decoded
    · cases decoded

/-- What members set does not depend on their order. -/
theorem Open.decodeMembers_of_perm {members others : Json.Members} {opened : Open}
    (perm : members.Perm others) (distinct : (members.map Prod.fst).Nodup)
    (decoded : members.foldlM Open.decodeMember {} = .ok opened) :
    others.foldlM Open.decodeMember {} = .ok opened :=
  foldlM_eq_ok_of_perm Ne.symm (f := Open.decodeMember)
    (fun {_ _ _} => Open.decodeMember_eq_ok_iff) (fun apart => Open.withMember_comm apart) perm
    (List.pairwise_map.mp distinct) decoded

/-- Whether a member is one of the settings beside the fields of the rules. -/
def isSetting (member : Text × Json) : Bool := fieldNames.contains member.1

theorem decode_eq_ok_iff {members : Json.Members} {layer : Layer} :
    decode members = .ok layer ↔ ∃ opened rules,
      (members.filter isSetting).foldlM Open.decodeMember {} = .ok opened ∧
      RuleLayer.decode (.object (members.filter (!isSetting ·))) = .ok rules ∧
      (opened.rules = none ∨ members.filter (!isSetting ·) = []) ∧
      layer = { opened.layer with rules := opened.rules.getD rules } := by
  have parts : members.partition (fun member => fieldNames.contains member.1) =
      (members.filter isSetting, members.filter (!isSetting ·)) :=
    List.partition_eq_filter_filter
  unfold decode
  rw [parts]
  simp only [bind_eq_ok]
  constructor
  · rintro ⟨opened, named, rules, flat, made⟩
    refine ⟨opened, rules, named, flat, ?_⟩
    split at made
    · next none =>
      cases made
      exact ⟨.inl none, by rw [none]; rfl⟩
    · next nested some =>
      split at made
      · next empty =>
        cases made
        exact ⟨.inr (List.isEmpty_iff.mp empty), by rw [some]; rfl⟩
      · cases made
  · rintro ⟨opened, rules, named, flat, place, rfl⟩
    refine ⟨opened, named, rules, flat, ?_⟩
    cases set : opened.rules with
    | none => rfl
    | some nested =>
      have empty := place.resolve_left fun none => by simp [set] at none
      simp only [empty]
      rfl

/-- The settings may stand in any order. -/
theorem decode_of_perm {members others : Json.Members} {layer : Layer}
    (perm : members.Perm others) (distinct : (members.map Prod.fst).Nodup)
    (decoded : decode members = .ok layer) : decode others = .ok layer := by
  obtain ⟨opened, rules, named, flat, place, rfl⟩ := decode_eq_ok_iff.mp decoded
  have part (p : Text × Json → Bool) : ((members.filter p).map Prod.fst).Nodup :=
    (List.filter_sublist.map _).nodup distinct
  refine decode_eq_ok_iff.mpr ⟨opened, rules,
    Open.decodeMembers_of_perm (perm.filter _) (part _) named,
    RuleLayer.decode_of_perm (perm.filter _) (part _) flat, place.imp_right fun empty => ?_, rfl⟩
  exact ((perm.filter (!isSetting ·)).symm.trans (.of_eq empty)).eq_nil

theorem decode_perm_iff {members others : Json.Members} (perm : members.Perm others)
    (distinct : (members.map Prod.fst).Nodup) {layer : Layer} :
    decode members = .ok layer ↔ decode others = .ok layer :=
  ⟨decode_of_perm perm distinct,
    decode_of_perm perm.symm ((perm.map Prod.fst).nodup_iff.mp distinct)⟩

section

variable {settings fields : Json.Members}

theorem filter_isSetting_append (own : ∀ member ∈ settings, member.1 ∈ fieldNames)
    (others : ∀ member ∈ fields, member.1 ∉ fieldNames) :
    (settings ++ fields).filter isSetting = settings ∧
      (settings ++ fields).filter (!isSetting ·) = fields := by
  have left : ∀ member ∈ settings, isSetting member = true := fun member inside =>
    List.contains_iff_mem.mpr (own member inside)
  have right : ∀ member ∈ fields, isSetting member = false := fun member inside =>
    Bool.eq_false_iff.mpr fun listed => others member inside (List.contains_iff_mem.mp listed)
  constructor
  · rw [List.filter_append, List.filter_eq_self.mpr left, List.filter_eq_nil_iff.mpr, List.append_nil]
    exact fun member inside listed => by simp [right member inside] at listed
  · rw [List.filter_append, List.filter_eq_nil_iff.mpr, List.nil_append, List.filter_eq_self.mpr]
    · exact fun member inside => by simp [right member inside]
    · exact fun member inside listed => by simp [left member inside] at listed

/-- Settings and fields of the rules beside them are read apart from each other. -/
theorem decode_append_eq_ok_iff (own : ∀ member ∈ settings, member.1 ∈ fieldNames)
    (others : ∀ member ∈ fields, member.1 ∉ fieldNames) {layer : Layer} :
    decode (settings ++ fields) = .ok layer ↔ ∃ opened rules,
      settings.foldlM Open.decodeMember {} = .ok opened ∧
      RuleLayer.decode (.object fields) = .ok rules ∧
      (opened.rules = none ∨ fields = []) ∧
      layer = { opened.layer with rules := opened.rules.getD rules } := by
  obtain ⟨named, flat⟩ := filter_isSetting_append own others
  rw [decode_eq_ok_iff, named, flat]

/-- Without a member for the rules none are set. -/
theorem rules_eq_none (free : ∀ member ∈ settings, member.1 ≠ "rules".toList) {opened : Open}
    (decoded : settings.foldlM Open.decodeMember {} = .ok opened) : opened.rules = none := by
  refine foldlM_preserves (P := fun opened => opened.rules = none)
    (fun member inside {before after} none decoded => ?_) rfl decoded
  obtain ⟨source, -, rfl⟩ := Open.decodeMember_eq_ok_iff.mp decoded
  unfold Open.withMember
  cases found : Setting.ofName? member.1 with
  | none => exact none
  | some setting =>
    cases setting with
    | rules => exact absurd (Setting.name_of_ofName? found) (free member inside)
    | _ => exact none

/-- The last member sets the rules. -/
theorem decodeMembers_rules_eq_ok_iff {value : Json} {opened : Open} :
    (settings ++ [("rules".toList, value)]).foldlM Open.decodeMember {} = .ok opened ↔
      ∃ before rules, settings.foldlM Open.decodeMember {} = .ok before ∧
        value.toOption RuleLayer.decode = .ok rules ∧ opened = { before with rules := rules } := by
  have last (before : Open) : before.decodeMember ("rules".toList, value) = .ok opened ↔
      ∃ rules, value.toOption RuleLayer.decode = .ok rules ∧
        opened = { before with rules := rules } := by
    change (do return { before with rules := ← value.toOption RuleLayer.decode }) = _ ↔ _
    rw [bind_eq_ok]
    exact exists_congr fun rules => and_congr_right fun _ =>
      ⟨fun made => (Except.ok.inj made).symm, fun made => congrArg Except.ok made.symm⟩
  rw [List.foldlM_append, bind_eq_ok]
  simp only [List.foldlM_cons, List.foldlM_nil, bind_pure, last]
  exact ⟨fun ⟨before, first, rules, read, made⟩ => ⟨before, rules, first, read, made⟩,
    fun ⟨before, rules, first, read, made⟩ => ⟨before, first, rules, read, made⟩⟩

theorem rules_mem_fieldNames : "rules".toList ∈ fieldNames := by decide

/-- The fields of the rules in a member of their own are read as they are. -/
theorem decode_nested_eq_ok_iff (own : ∀ member ∈ settings, member.1 ∈ fieldNames) {layer : Layer} :
    decode (settings ++ [("rules".toList, .object fields)]) = .ok layer ↔ ∃ opened rules,
      settings.foldlM Open.decodeMember {} = .ok opened ∧
      RuleLayer.decode (.object fields) = .ok rules ∧
      layer = { opened.layer with rules := rules } := by
  have all : ∀ member ∈ settings ++ [("rules".toList, .object fields)], member.1 ∈ fieldNames := by
    exact List.forall_mem_append.mpr ⟨own, List.forall_mem_singleton.mpr rules_mem_fieldNames⟩
  have alone := @decode_append_eq_ok_iff _ [] all (List.forall_mem_nil _) layer
  rw [List.append_nil] at alone
  rw [alone]
  simp only [decodeMembers_rules_eq_ok_iff]
  constructor
  · rintro ⟨_, _, ⟨opened, nested, first, read, rfl⟩, -, -, rfl⟩
    obtain ⟨rules, decoded, rfl⟩ := map_eq_ok.mp read
    exact ⟨opened, rules, first, decoded, rfl⟩
  · rintro ⟨opened, rules, first, decoded, rfl⟩
    exact ⟨_, {}, ⟨opened, some rules, first, map_eq_ok.mpr ⟨rules, decoded, rfl⟩, rfl⟩, rfl,
      .inr trivial, rfl⟩

/-- Fields of the rules in both places are refused. -/
theorem decode_both_ne_ok (own : ∀ member ∈ settings, member.1 ∈ fieldNames)
    (others : ∀ member ∈ fields, member.1 ∉ fieldNames) (some : fields ≠ []) {value : Json}
    (set : value ≠ .null) {layer : Layer} :
    decode (settings ++ [("rules".toList, value)] ++ fields) ≠ .ok layer := by
  intro decoded
  have all : ∀ member ∈ settings ++ [("rules".toList, value)], member.1 ∈ fieldNames := by
    exact List.forall_mem_append.mpr ⟨own, List.forall_mem_singleton.mpr rules_mem_fieldNames⟩
  obtain ⟨_, _, named, -, place, -⟩ := (decode_append_eq_ok_iff all others).mp decoded
  obtain ⟨_, nested, -, read, rfl⟩ := decodeMembers_rules_eq_ok_iff.mp named
  rw [Json.toOption_of_ne_null set] at read
  obtain ⟨rules, -, rfl⟩ := map_eq_ok.mp read
  exact place.elim nofun some

/-- The fields of the rules mean the same in a member of their own and beside the other settings,
wherever they stand, and they are refused in both places. -/
theorem nested_iff_flat
    (own : ∀ member ∈ settings, member.1 ∈ fieldNames ∧ member.1 ≠ "rules".toList)
    (others : ∀ member ∈ fields, member.1 ∉ fieldNames)
    (distinct : ((settings ++ fields).map Prod.fst).Nodup) :
    (∀ nested flat : Json.Members, nested.Perm (("rules".toList, .object fields) :: settings) →
      flat.Perm (settings ++ fields) →
        (∀ layer, decode nested = .ok layer ↔ decode flat = .ok layer) ∧
        ∀ nestedText flatText, Json.ofText nestedText = .ok (.object nested) →
          Json.ofText flatText = .ok (.object flat) →
            ∀ layer, ofText nestedText = .ok layer ↔ ofText flatText = .ok layer) ∧
    ∀ (both : Json.Members) (value : Json), fields ≠ [] → value ≠ .null →
      both.Perm (("rules".toList, value) :: (settings ++ fields)) →
        (∃ mismatch, decode both = .error mismatch) ∧
        ∀ text, Json.ofText text = .ok (.object both) → ∃ error, ofText text = .error error := by
  have known : ∀ member ∈ settings, member.1 ∈ fieldNames := fun member inside =>
    (own member inside).1
  have free : "rules".toList ∉ (settings ++ fields).map Prod.fst := by
    rw [List.mem_map]
    rintro ⟨member, inside, same⟩
    rcases List.mem_append.mp inside with inside | inside
    · exact (own member inside).2 same
    · exact others member inside (same ▸ rules_mem_fieldNames)
  have withRules (value : Json) :
      ((("rules".toList, value) :: (settings ++ fields)).map Prod.fst).Nodup :=
    List.nodup_cons.mpr ⟨free, distinct⟩
  refine ⟨fun nested flat nestedPerm flatPerm => ?_, fun both value some set perm => ?_⟩
  · have same (layer : Layer) : decode nested = .ok layer ↔ decode flat = .ok layer := by
      have nestedLast : nested.Perm (settings ++ [("rules".toList, .object fields)]) :=
        nestedPerm.trans (List.perm_append_singleton _ _).symm
      have nestedNames : (nested.map Prod.fst).Nodup :=
        (nestedPerm.map Prod.fst).nodup_iff.mpr
          ((((List.sublist_append_left settings fields).cons_cons _).map Prod.fst).nodup
            (withRules (.object fields)))
      have flatNames : (flat.map Prod.fst).Nodup := (flatPerm.map Prod.fst).nodup_iff.mpr distinct
      rw [decode_perm_iff nestedLast nestedNames, decode_perm_iff flatPerm flatNames,
        decode_nested_eq_ok_iff known, decode_append_eq_ok_iff known others]
      refine exists_congr fun opened => exists_congr fun rules => and_congr_right fun first =>
        and_congr_right fun _ => ?_
      have none := rules_eq_none (fun member inside => (own member inside).2) first
      rw [none]
      exact (and_iff_right (.inl rfl)).symm
    refine ⟨same, fun nestedText flatText nestedRead flatRead layer => ?_⟩
    rw [ofText_eq_ok_iff, ofText_eq_ok_iff, nestedRead, flatRead]
    simpa using same layer
  · have refused (layer : Layer) : decode both ≠ .ok layer := by
      have parts : both.Perm (settings ++ [("rules".toList, value)] ++ fields) := by
        rw [List.append_assoc]
        exact perm.trans List.perm_middle.symm
      have names : (both.map Prod.fst).Nodup :=
        (perm.map Prod.fst).nodup_iff.mpr (withRules value)
      exact fun decoded => decode_both_ne_ok known others some set (decode_of_perm parts names decoded)
    constructor
    · cases result : decode both with
      | error mismatch => exact ⟨mismatch, rfl⟩
      | ok layer => exact absurd result (refused layer)
    · intro text read
      cases result : ofText text with
      | error error => exact ⟨error, rfl⟩
      | ok layer =>
        obtain ⟨members, read', decoded⟩ := ofText_eq_ok_iff.mp result
        cases read.symm.trans read'
        exact absurd decoded (refused layer)

end

/-- A setting beside the rules. -/
def projectSetting : Json.Members := [("project".toList, .string "src".toList)]

/-- Two fields of the rules. -/
def ruleFields : Json.Members :=
  [("maxWarning".toList, .ofNat 3), ("deepSearch".toList, .string "enable".toList)]

/-- The fields in a member of their own, behind the setting. -/
def nestedText : Text :=
  ("\x7b\"project\": \"src\", \"rules\": \x7b\"maxWarning\": 3, " ++
    "\"deepSearch\": \"enable\"\x7d\x7d").toList

/-- The fields around the setting, in the other order. -/
def flatText : Text :=
  "\x7b\"deepSearch\": \"enable\", \"project\": \"src\", \"maxWarning\": 3\x7d".toList

/-- A member for the rules and the fields beside it. -/
def bothText : Text :=
  ("\x7b\"project\": \"src\", \"rules\": [], \"maxWarning\": 3, " ++
    "\"deepSearch\": \"enable\"\x7d").toList

theorem nested_iff_flat_texts :
    (∀ member ∈ projectSetting, member.1 ∈ fieldNames ∧ member.1 ≠ "rules".toList) ∧
      (∀ member ∈ ruleFields, member.1 ∉ fieldNames) ∧
      ((projectSetting ++ ruleFields).map Prod.fst).Nodup ∧
      ofText nestedText = .ok
        { project := some "src".toList,
          rules := { maxWarnings := some 3, deepSearch := some .enable } } ∧
      ofText flatText = ofText nestedText ∧
      ∃ error, ofText bothText = .error error := by
  have own : ∀ member ∈ projectSetting, member.1 ∈ fieldNames ∧ member.1 ≠ "rules".toList :=
    List.forall_mem_singleton.mpr
      (by decide : "project".toList ∈ fieldNames ∧ "project".toList ≠ "rules".toList)
  have others : ∀ member ∈ ruleFields, member.1 ∉ fieldNames := by
    refine List.forall_mem_cons.mpr ⟨?_, List.forall_mem_singleton.mpr ?_⟩
    · exact (by decide : "maxWarning".toList ∉ fieldNames)
    · exact (by decide : "deepSearch".toList ∉ fieldNames)
  have distinct : ((projectSetting ++ ruleFields).map Prod.fst).Nodup := by decide
  obtain ⟨same, refused⟩ := nested_iff_flat own others distinct
  have nested : ofText nestedText = .ok
      { project := some "src".toList,
        rules := { maxWarnings := some 3, deepSearch := some .enable } } := by decide +kernel
  have flatPerm : List.Perm
      [ruleFields[1], ("project".toList, .string "src".toList), ruleFields[0]]
      (projectSetting ++ ruleFields) :=
    (List.Perm.swap _ _ _).trans ((List.Perm.swap _ _ _).cons _)
  have flat := ((same _ _ (.swap _ _ _) flatPerm).2 nestedText flatText rfl rfl _).mp nested
  exact ⟨own, others, distinct, nested, flat.trans nested.symm,
    (refused _ (.array []) (by simp [ruleFields]) nofun (.swap _ _ _)).2 bothText rfl⟩

end Layer

end LocaleLint
