import Mathlib
import LocaleLint.Language.Editor
import LocaleLint.Proofs.Json.RoundTrip
import LocaleLint.Proofs.Language.Removal

/-!
# Saved language files

A file that has been edited and saved is read as the value that the editor holds, and is not
modified then. It can be read unless its value nests too deep, which happens only if an item of a
list at the greatest depth gives way to an empty object. All this is for values whose doubles are
read back from the texts that they are printed as.
-/

namespace LocaleLint

/-- The doubles in a document are read back from the texts that they are printed as. -/
def Document.ReadsBack (document : Document) : Prop :=
  ∀ value, document.json = .ok value → value.ReadsBack

/-- The text of a sound value is read as that value exactly if it does not nest too deep. -/
theorem json_textOf_iff {path : Text} {value other : Json} (sound : value.Sound)
    (back : value.ReadsBack) :
    (Document.mk path (Editor.textOf value)).json = .ok other ↔
      other = value ∧ value.depth ≤ Json.depthLimit := by
  rw [Document.json, mapError_eq_ok]
  exact Json.ofText_pretty_iff sound back Editor.indentation

theorem sound_of_json {document : Document} {value : Json} (read : document.json = .ok value) :
    value.Sound ∧ value.depth ≤ Json.depthLimit :=
  Json.sound_of_ofText (mapError_eq_ok.mp read)

theorem textOf_injective {value other : Json} (sound : value.Sound) (back : value.ReadsBack)
    (otherSound : other.Sound) (otherBack : other.ReadsBack) (fits : other.depth ≤ Json.depthLimit)
    (same : Editor.textOf value = Editor.textOf other) : value = other := by
  have read : (Document.mk [] (Editor.textOf value)).json = .ok other := by
    rw [same]
    exact (json_textOf_iff otherSound otherBack).mpr ⟨rfl, fits⟩
  exact ((json_textOf_iff sound back).mp read).1.symm

namespace Editor

/-- An editor after keys have been removed in several steps. -/
def removeAll (editor : Editor) (steps : List (List Text)) : Editor := steps.foldl removeKeys editor

/-- The file that an editor saves. -/
def saved (editor : Editor) (path : Text) : Document := ⟨path, editor.content⟩

theorem ofDocument_eq_ok_iff {document : Document} {editor : Editor} :
    ofDocument document = .ok editor ↔
      editor.source = document.content ∧ document.json = .ok editor.value := by
  rw [ofDocument, map_eq_ok]
  constructor
  · rintro ⟨value, read, rfl⟩
    exact ⟨rfl, read⟩
  · rintro ⟨source, read⟩
    exact ⟨editor.value, read, by rw [← source]⟩

/-- What each removal keeps is kept by all steps. -/
theorem removeAll_induction {P : Json → Prop} {editor : Editor} (steps : List (List Text))
    (start : P editor.value) (step : ∀ value keys, P value → P (Removal.removeKeys keys value)) :
    P (editor.removeAll steps).value := by
  unfold removeAll
  induction steps generalizing editor with
  | nil => exact start
  | cons keys rest ih => exact ih (step editor.value keys start)

/-- What an editor has saved is opened again exactly if it does not nest too deep, with the same
value. -/
theorem ofDocument_saved_iff {editor again : Editor} (sound : editor.value.Sound)
    (back : editor.value.ReadsBack) (path : Text) :
    ofDocument (editor.saved path) = .ok again ↔
      again = ⟨editor.content, editor.value⟩ ∧ editor.value.depth ≤ Json.depthLimit := by
  rw [ofDocument_eq_ok_iff]
  constructor
  · rintro ⟨source, read⟩
    obtain ⟨value, fits⟩ := (json_textOf_iff sound back).mp read
    obtain ⟨text, held⟩ := again
    cases source
    cases value
    exact ⟨rfl, fits⟩
  · rintro ⟨rfl, fits⟩
    exact ⟨rfl, (json_textOf_iff sound back).mpr ⟨rfl, fits⟩⟩

/-- An editor can open what it has saved: the value is the same, and there is nothing to save. -/
def Reloads (editor : Editor) (path : Text) : Prop :=
  ∃ again, ofDocument (editor.saved path) = .ok again ∧ again.value = editor.value ∧
    again.isModified = false ∧ again.content = editor.content

theorem reloads_iff {editor : Editor} (sound : editor.value.Sound)
    (back : editor.value.ReadsBack) (path : Text) :
    editor.Reloads path ↔ editor.value.depth ≤ Json.depthLimit := by
  constructor
  · rintro ⟨again, loaded, -⟩
    exact ((ofDocument_saved_iff sound back path).mp loaded).2
  · intro fits
    exact ⟨_, (ofDocument_saved_iff sound back path).mpr ⟨rfl, fits⟩, rfl,
      by simp [isModified, content], rfl⟩

theorem sound_removeAll {editor : Editor} (sound : editor.value.Sound) (steps : List (List Text)) :
    (editor.removeAll steps).value.Sound :=
  removeAll_induction steps sound fun _ keys sound => Removal.sound_removeKeys sound keys

theorem readsBack_removeAll {editor : Editor} (back : editor.value.ReadsBack)
    (steps : List (List Text)) : (editor.removeAll steps).value.ReadsBack :=
  removeAll_induction steps back fun _ keys back => Removal.readsBack_removeKeys back keys

theorem reach_removeAll {editor : Editor} {limit : Nat} (within : Removal.reach editor.value ≤ limit)
    (steps : List (List Text)) : Removal.reach (editor.removeAll steps).value ≤ limit :=
  @removeAll_induction (Removal.reach · ≤ limit) editor steps within
    fun _ keys within => Removal.reach_removeKeys within keys

/-- After any removals a saved file can be opened again exactly if its value does not nest too deep,
and then it is as it was saved. No value does that nests less deep at first, or whose lists at the
greatest depth are empty. -/
theorem removeAll_reloads_iff {document : Document} {editor : Editor}
    (opened : ofDocument document = .ok editor) (back : editor.value.ReadsBack)
    (steps : List (List Text)) (path : Text) :
    ((∃ again, ofDocument ((editor.removeAll steps).saved path) = .ok again) →
        (editor.removeAll steps).Reloads path) ∧
      ((editor.removeAll steps).Reloads path ↔
        (editor.removeAll steps).value.depth ≤ Json.depthLimit) ∧
      (Removal.reach editor.value ≤ Json.depthLimit → (editor.removeAll steps).Reloads path) ∧
      (editor.value.depth < Json.depthLimit → (editor.removeAll steps).Reloads path) ∧
      editor.Reloads path := by
  obtain ⟨-, read⟩ := ofDocument_eq_ok_iff.mp opened
  obtain ⟨sound, fits⟩ := sound_of_json read
  have soundLeft := sound_removeAll sound steps
  have backLeft := readsBack_removeAll back steps
  have edited := reloads_iff soundLeft backLeft path
  -- A removal may nest a value deeper, but never beyond its reach, and the reach never grows.
  have within : Removal.reach editor.value ≤ Json.depthLimit →
      (editor.removeAll steps).Reloads path := fun within =>
    edited.mpr ((Removal.depth_le_reach _).trans (reach_removeAll within steps))
  refine ⟨?_, edited, within, fun room => ?_, (reloads_iff sound back path).mpr fits⟩
  · rintro ⟨again, loaded⟩
    exact edited.mpr ((ofDocument_saved_iff soundLeft backLeft path).mp loaded).2
  · exact within ((Removal.reach_le_depth _).trans room)

/-- A file with a list of a name, a list and an object, and with numbers. -/
def assortedFile : Document :=
  ⟨"en.json".toList, ("\x7b\"A\": [\"\\u00e9\\n\", \x7b\"B\": -1\x7d, []], " ++
    "\"C\": \x7b\x7d, \"E\": 2.5e-1\x7d").toList⟩

def quarter : Double := .finite false (2 ^ 52) (-54)

def assortedValue : Json :=
  .object [("A".toList, .array [.string "é\n".toList,
    .object [("B".toList, .number (.integer (-1)))], .array []]), ("C".toList, .object []),
    ("E".toList, .number (.double quarter))]

theorem removeAll_reloads_assorted :
    ofDocument assortedFile = .ok ⟨assortedFile.content, assortedValue⟩ ∧
      assortedValue.ReadsBack ∧
      (removeAll ⟨assortedFile.content, assortedValue⟩
        [["A.1.B".toList, "D".toList], ["C".toList]]).Reloads "en.json".toList := by
  have opened : ofDocument assortedFile = .ok ⟨assortedFile.content, assortedValue⟩ := rfl
  have back : assortedValue.ReadsBack := List.forall_mem_singleton.mpr rfl
  exact ⟨opened, back, (removeAll_reloads_iff opened back _ _).2.2.2.1 (by decide)⟩

/-- A file whose lists nest as deep as they may, the innermost one with two items. -/
def deepestList : Document :=
  ⟨"en.json".toList, "\x7b\"A\":".toList ++ List.replicate 126 '[' ++ "0,1".toList ++
    List.replicate 126 ']' ++ ['\x7d']⟩

/-- The key of the first item of the innermost list. -/
def deepestKey : Text := Text.joinWith ['.'] ("A".toList :: List.replicate 126 ['0'])

/-- An item of a list at the greatest depth gives way to an object that nests too deep. -/
theorem removeAll_not_reloaded :
    ¬ ∀ (document : Document) (editor : Editor) (steps : List (List Text)),
      ofDocument document = .ok editor → (editor.removeAll steps).Reloads document.path := by
  intro claim
  have deep : (deepestList.json.toOption.map fun value =>
      ((Removal.removeKeys [deepestKey] value).depth, value.doubles.isEmpty)) =
        some (128, true) := by decide +kernel
  cases read : deepestList.json with
  | error failure => simp [read, Except.toOption] at deep
  | ok value =>
    have opened : ofDocument deepestList = .ok ⟨deepestList.content, value⟩ :=
      ofDocument_eq_ok_iff.mpr ⟨rfl, read⟩
    have sound : (removeAll ⟨deepestList.content, value⟩ [[deepestKey]]).value.Sound :=
      sound_removeAll (sound_of_json read).1 _
    simp only [read, Except.toOption, Option.map_some, Option.some.injEq, Prod.mk.injEq,
      List.isEmpty_iff] at deep
    have back : value.ReadsBack := by simp [Json.ReadsBack, deep.2]
    have fits := (reloads_iff sound (readsBack_removeAll back _) _).mp (claim _ _ _ opened)
    change (Removal.removeKeys [deepestKey] value).depth ≤ Json.depthLimit at fits
    rw [deep.1] at fits
    exact absurd fits (by decide)

end Editor

end LocaleLint
