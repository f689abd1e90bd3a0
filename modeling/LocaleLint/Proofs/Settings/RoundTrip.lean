import Mathlib
import LocaleLint.Proofs.Settings.Format

/-!
# Settings are read as they have been written

A layer that has been read from a text is read back from every text that it is written as, provided
that its coefficient is. Settings that have been merged from two layers make a layer that sets
everything, and they are what is merged from that layer alone.
-/

namespace LocaleLint

/-- The texts that a value is written as: the compact one, and those with one entry a line. -/
inductive Json.Writes (value : Json) : Text → Prop
  | compact : Writes value value.compact
  | pretty (spaces : Nat) : Writes value (value.pretty spaces)

namespace Layer

theorem readWrong_ne_ok {α : Type} {expected text : Text} {result : α} :
    Json.readWrong expected text ≠ .ok result := by
  intro read
  unfold Json.readWrong at read
  split at read
  · cases read
  · cases read
  · obtain ⟨_, _, stopped⟩ := bind_eq_ok.mp read
    cases stopped

/-- What is read as an object is one. -/
theorem readValue_of_readObject {text rest : Text} {members : Json.Members}
    (read : readObject text = .ok (members, rest)) :
    Json.readValue Json.depthLimit text = .ok (.object members, rest) := by
  unfold readObject at read
  split at read
  · cases read
  · obtain ⟨⟨value, left⟩, first, read⟩ := bind_eq_ok.mp read
    dsimp only at read
    split at read
    · cases read
      exact mapError_eq_ok.mp first
    · exact absurd read readWrong_ne_ok
  · exact absurd read readWrong_ne_ok

/-- A text that holds an object starts with a brace. -/
theorem skipBlank_of_readObject {reader : Option (Text → Json.Scan (Json × Text))} {text rest : Text}
    {members : Json.Members} (read : Json.readWith reader text = .ok (.object members, rest)) :
    ∃ tail, Json.skipBlank text = '\x7b' :: tail := by
  unfold Json.readWith at read
  split at read
  · cases read
  · next c others start =>
    split at read
    · next container =>
      unfold Json.readContainer at read
      split at read
      · cases read
      · split at read
        · obtain ⟨_, _, made⟩ := bind_eq_ok.mp read
          cases made
        · next other => exact ⟨others, container.resolve_left other ▸ start⟩
    -- All other characters start a scalar.
    repeat' split at read
    all_goals
      first
      | cases read
      | obtain ⟨_, _, made⟩ := bind_eq_ok.mp read
        cases made

/-- A text that holds an object is read as the object that it holds. -/
theorem readObject_of_readValue {text rest : Text} {members : Json.Members}
    (read : Json.readValue Json.depthLimit text = .ok (.object members, rest)) :
    readObject text = .ok (members, rest) := by
  obtain ⟨tail, start⟩ := skipBlank_of_readObject read
  rw [readObject, start]
  exact bind_eq_ok.mpr ⟨_, mapError_eq_ok.mpr read, rfl⟩

/-- A layer is read from the texts of the objects that it can be made of. -/
theorem ofText_eq_ok_iff {text : Text} {layer : Layer} :
    ofText text = .ok layer ↔
      ∃ members, Json.ofText text = .ok (.object members) ∧ decode members = .ok layer := by
  rw [ofText, bind_eq_ok]
  constructor
  · rintro ⟨⟨members, rest⟩, read, decoded⟩
    obtain ⟨other, made, later⟩ := bind_eq_ok.mp decoded
    obtain ⟨_, ended, same⟩ := bind_eq_ok.mp later
    cases same
    have value := readValue_of_readObject (mapError_eq_ok.mp read)
    exact ⟨members, mapError_eq_ok.mpr (bind_eq_ok.mpr ⟨_, value, bind_eq_ok.mpr
      ⟨(), mapError_eq_ok.mp (mapError_eq_ok.mp ended), rfl⟩⟩), mapError_eq_ok.mp made⟩
  · rintro ⟨members, read, made⟩
    obtain ⟨⟨value, rest⟩, first, later⟩ := bind_eq_ok.mp (mapError_eq_ok.mp read)
    obtain ⟨_, ended, same⟩ := bind_eq_ok.mp later
    cases same
    exact ⟨(members, rest), mapError_eq_ok.mpr (readObject_of_readValue first), bind_eq_ok.mpr
      ⟨layer, mapError_eq_ok.mpr made, bind_eq_ok.mpr
        ⟨(), mapError_eq_ok.mpr (mapError_eq_ok.mpr ended), rfl⟩⟩⟩

/-- A layer that has been read is sound. -/
theorem sound_of_ofText {text : Text} {layer : Layer} (read : ofText text = .ok layer) :
    layer.Sound := by
  obtain ⟨members, object, decoded⟩ := ofText_eq_ok_iff.mp read
  have sound := (Json.sound_of_ofText object).1
  cases sound with
  | object distinct values => exact sound_decode distinct values decoded

/-- A sound layer is read from each of its texts, also with white space behind it. -/
theorem ofText_layout {layer : Layer} (sound : layer.Sound) (back : layer.ReadsBack) {layout : Nat → Json → Text}
    (writes : Json.IsLayout layout) {gap : Text} (blank : Json.Blank gap) :
    ofText (layout 0 layer.toJson ++ gap) = .ok layer := by
  obtain ⟨values, depth⟩ := sound_toJson sound
  have read := Json.readValue_layout writes values (readsBack_toJson back) 0
    (depth.trans (by decide : 3 ≤ Json.depthLimit)) (Json.endsNumber_of_blank blank)
  have nothing : Json.skipBlank gap = [] := List.dropWhile_eq_nil_iff.mpr blank
  have ended : Json.readEnd gap = .ok () := by
    rw [Json.readEnd, nothing]
  exact ofText_eq_ok_iff.mpr ⟨_, mapError_eq_ok.mpr (bind_eq_ok.mpr ⟨_, read, bind_eq_ok.mpr
    ⟨(), ended, rfl⟩⟩), decode_members sound⟩

/-- A sound layer is read from each text that it is written as. -/
theorem ofText_of_writes {layer : Layer} (sound : layer.Sound) (back : layer.ReadsBack) {text : Text}
    (written : layer.toJson.Writes text) : ofText text = .ok layer := by
  rw [← List.append_nil text]
  cases written with
  | compact => exact ofText_layout sound back Json.isLayout_compact Json.blank_nil
  | pretty spaces =>
    exact ofText_layout sound back (Json.isLayout_indented (Json.blank_spaces spaces)) Json.blank_nil

end Layer

namespace Settings

theorem defaultCoefficient_isNormal : RuleSettings.defaultCoefficient.IsNormal := by
  refine Double.nearest_isNormal_of_small false (by decide) ?_
  calc ((9 : Nat) : ℚ) / (10 : Nat) < 1 := by norm_num
    _ ≤ 2 ^ (1023 : Int) := one_le_zpow₀ (by norm_num) (by norm_num)

theorem sound_default : default.toLayer.Sound := by
  refine ⟨fun items set => ?_, ⟨fun n set => ?_, fun x set => ?_⟩⟩
  · cases set
    exact fun item => nofun
  · cases set
    decide
  · cases set
    exact defaultCoefficient_isNormal

/-- What holds of a field in settings and in a layer holds of it in the two together. -/
private theorem of_getD {α : Type} {P : α → Prop} {own : Option α} {base a : α}
    (below : ∀ a, some base = some a → P a) (above : ∀ a, own = some a → P a)
    (set : some (own.getD base) = some a) : P a := by
  cases set
  cases own with
  | none => exact below base rfl
  | some a => exact above a rfl

/-- Settings with a sound layer over them make a sound layer if they do without it. -/
theorem sound_withLayer {settings : Settings} {layer : Layer} (sound : settings.toLayer.Sound)
    (above : layer.Sound) : (settings.withLayer layer).toLayer.Sound :=
  ⟨fun _ => of_getD sound.ignore above.ignore,
    fun _ => of_getD sound.rules.maxWarnings above.rules.maxWarnings,
    fun _ => of_getD sound.rules.misprintCoefficient above.rules.misprintCoefficient⟩

theorem sound_merge {file commandLine : Layer} (fileSound : file.Sound)
    (commandLineSound : commandLine.Sound) : (merge file commandLine).toLayer.Sound :=
  sound_withLayer (sound_withLayer sound_default fileSound) commandLineSound

theorem readsBack_default : default.toLayer.ReadsBack := by
  intro x set
  cases set
  have normal := defaultCoefficient_isNormal
  have value : RuleSettings.defaultCoefficient = .finite false 8106479329266893 (-53) := rfl
  change Json.IsReadBack RuleSettings.defaultCoefficient
  rw [value] at normal ⊢
  exact Json.isReadBack_of_isShort normal ⟨by decide, by decide⟩

theorem readsBack_withLayer {settings : Settings} {layer : Layer}
    (back : settings.toLayer.ReadsBack) (above : layer.ReadsBack) :
    (settings.withLayer layer).toLayer.ReadsBack :=
  fun _ => of_getD back above

theorem readsBack_merge {file commandLine : Layer} (fileBack : file.ReadsBack)
    (commandBack : commandLine.ReadsBack) : (merge file commandLine).toLayer.ReadsBack :=
  readsBack_withLayer (readsBack_withLayer readsBack_default fileBack) commandBack

/-- Settings are what is merged from the layer that sets everything and the empty one. -/
theorem merge_toLayer (settings : Settings) :
    merge settings.toLayer {} = settings ∧ merge {} settings.toLayer = settings := ⟨rfl, rfl⟩

/-- A layer that has been read is read back from its texts if its coefficient is. The settings that are
merged from two such layers are written as a layer that is read back too, and they are what is merged
from that layer and the empty one. -/
theorem merge_reads_back {fileText commandText : Text} {file commandLine : Layer}
    (fileRead : Layer.ofText fileText = .ok file)
    (commandRead : Layer.ofText commandText = .ok commandLine) (fileBack : file.ReadsBack)
    (commandBack : commandLine.ReadsBack) :
    (∀ text, file.toJson.Writes text → Layer.ofText text = .ok file) ∧
    ∀ text, (merge file commandLine).toLayer.toJson.Writes text →
      ∃ layer, Layer.ofText text = .ok layer ∧
        merge layer {} = merge file commandLine ∧ merge {} layer = merge file commandLine := by
  have fileSound := Layer.sound_of_ofText fileRead
  have mergedSound := sound_merge fileSound (Layer.sound_of_ofText commandRead)
  have mergedBack := readsBack_merge fileBack commandBack
  exact ⟨fun text => Layer.ofText_of_writes fileSound fileBack, fun text written =>
    ⟨_, Layer.ofText_of_writes mergedSound mergedBack written, merge_toLayer _⟩⟩

/-- A settings file with a list of paths, a level and a coefficient that is a whole number. -/
def fileText : Text :=
  ("\x7b\"ignore\": \" a.json, ./b/*.html,\", \"project\": null, \"rules\": " ++
    "\x7b\"misprintKeys\": \"error\", \"misprintCoefficient\": 1\x7d\x7d").toList

/-- A layer of a command line with fields of the rules beside the others. -/
def commandText : Text :=
  "\x7b\"fixZombiesKeys\": true, \"maxWarning\": 3, \"deepSearch\": \"enable\"\x7d".toList

def fileLayer : Layer where
  ignore := some ["a.json".toList, "./b/*.html".toList]
  rules := { misprint := some .error, misprintCoefficient := some .one }

def commandLayer : Layer where
  fixZombies := some true
  rules := { maxWarnings := some 3, deepSearch := some .enable }

theorem merge_reads_back_texts :
    Layer.ofText fileText = .ok fileLayer ∧ Layer.ofText commandText = .ok commandLayer ∧
      fileLayer.ReadsBack ∧ commandLayer.ReadsBack ∧
      Layer.ofText fileLayer.toJson.compact = .ok fileLayer ∧
      ∃ layer,
        Layer.ofText ((merge fileLayer commandLayer).toLayer.toJson.pretty 2) = .ok layer ∧
        merge layer {} = merge fileLayer commandLayer := by
  have fileRead : Layer.ofText fileText = .ok fileLayer := by decide +kernel
  have commandRead : Layer.ofText commandText = .ok commandLayer := by decide +kernel
  have fileBack : fileLayer.ReadsBack := by
    intro x set
    cases set
    exact rfl
  have commandBack : commandLayer.ReadsBack := nofun
  obtain ⟨layers, merged⟩ := merge_reads_back fileRead commandRead fileBack commandBack
  obtain ⟨layer, read, same, -⟩ := merged _ (.pretty 2)
  exact ⟨fileRead, commandRead, fileBack, commandBack, layers _ .compact, layer, read, same⟩

end Settings

end LocaleLint
