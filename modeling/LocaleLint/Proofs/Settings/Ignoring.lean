import Mathlib
import LocaleLint.Files.Resolve
import LocaleLint.Proofs.Files.Braces
import LocaleLint.Proofs.Settings.Members
import LocaleLint.Proofs.Text.Lists

/-!
# Ignored paths in settings

Settings list the ignored paths in an array or in one text, and both are cut at every comma. So the
entries are read as they are written exactly if there are no commas in them, although the braces of
an entry are expanded where files are looked for: alternatives in braces are cut apart before that.
-/

namespace LocaleLint.Layer

open Text (joinWith listItems)

variable {entries : List Text} {rest members : Json.Members} {value : Json} {layer : Layer}

/-- A value lists entries: as the items of an array, or joined with commas in one text. -/
inductive Lists (entries : List Text) : Json → Prop
  | items : Lists entries (.ofTexts entries)
  | joined : Lists entries (.string (joinWith [','] entries))

/-- However entries are listed, each of them is cut at its commas. -/
theorem Lists.toOption_decodeList (lists : Lists entries value) :
    value.toOption decodeList = .ok (some (entries.flatMap listItems)) := by
  cases lists with
  | items =>
    exact congrArg (Except.map some) (decodeList_ofTexts entries)
  | joined =>
    rw [← Text.listItems_joinWith]
    rfl

theorem filter_isSetting_concat (rest : Json.Members) {member : Text × Json}
    (known : isSetting member = true) :
    (rest ++ [member]).filter isSetting = rest.filter isSetting ++ [member] ∧
      (rest ++ [member]).filter (!isSetting ·) = rest.filter (!isSetting ·) := by
  constructor
  · simp [List.filter_append, known]
  · simp [List.filter_append, known]

/-- A member with ignored paths sets them beside whatever the others set. -/
theorem decode_ignore {items : Option (List Text)}
    (distinct : ("ignore".toList :: rest.map Prod.fst).Nodup) (decoded : decode rest = .ok layer)
    (read : value.toOption decodeList = .ok items)
    (perm : members.Perm (("ignore".toList, value) :: rest)) :
    decode members = .ok { layer with ignore := items } := by
  have names : (members.map Prod.fst).Nodup := (perm.map Prod.fst).nodup_iff.mpr distinct
  obtain ⟨opened, rules, named, flat, place, rfl⟩ := decode_eq_ok_iff.mp decoded
  obtain ⟨settings, fields⟩ :=
    filter_isSetting_concat rest (rfl : isSetting ("ignore".toList, value) = true)
  have set : opened.decodeMember ("ignore".toList, value) =
      .ok { opened with layer := { opened.layer with ignore := items } } := by
    change (do return { opened with
      layer := { opened.layer with ignore := ← value.toOption decodeList } }) = _
    rw [read]
    rfl
  rw [decode_perm_iff (perm.trans (List.perm_append_singleton _ _).symm) names, decode_eq_ok_iff,
    settings, fields, List.foldlM_append]
  exact ⟨_, rules, bind_eq_ok.mpr ⟨opened, named, bind_eq_ok.mpr ⟨_, set, rfl⟩⟩, flat, place, rfl⟩

/-- Entries that are trimmed and not empty are cut at their commas, whether they stand in an array or
in one text and whatever else is set. So they are what is ignored exactly if there are no commas in
them, and then the same files are found as with the entries themselves. -/
theorem ignore_eq_entries_iff (trimmed : ∀ entry ∈ entries, Text.trim entry = entry ∧ entry ≠ [])
    (distinct : ("ignore".toList :: rest.map Prod.fst).Nodup) (decoded : decode rest = .ok layer) :
    (∀ value members, Lists entries value → members.Perm (("ignore".toList, value) :: rest) →
      decode members = .ok { layer with ignore := some (entries.flatMap listItems) } ∧
      ∀ text, Json.ofText text = .ok (.object members) →
        ofText text = .ok { layer with ignore := some (entries.flatMap listItems) }) ∧
    (entries.flatMap listItems = entries ↔ ∀ entry ∈ entries, ',' ∉ entry) ∧
    ((∀ entry ∈ entries, ',' ∉ entry) → ∀ (disk : Disk) (pattern : Text) (extensions : List Text),
      disk.resolve pattern (entries.flatMap listItems) extensions =
        disk.resolve pattern entries extensions) := by
  have whole := Text.flatMap_listItems_eq_self_iff trimmed
  refine ⟨fun value members lists perm => ?_, whole, fun clean disk pattern extensions => ?_⟩
  · have made := decode_ignore distinct decoded lists.toOption_decodeList perm
    exact ⟨made, fun text read => ofText_eq_ok_iff.mpr ⟨members, read, made⟩⟩
  · rw [whole.mpr clean]

/-- Two entries without commas, of which one has braces. -/
def plainEntries : List Text := ["src/gen".toList, "**/*.\x7bspec\x7d.ts".toList]

theorem ignore_eq_entries_iff_plain :
    (∀ entry ∈ plainEntries, Text.trim entry = entry ∧ entry ≠ []) ∧
      (∀ entry ∈ plainEntries, ',' ∉ entry) ∧
      ofText "\x7b\"ignore\": \"src/gen,**/*.\x7bspec\x7d.ts\", \"fixZombiesKeys\": true\x7d".toList =
        .ok { ignore := some plainEntries, fixZombies := some true } := by
  have trimmed : ∀ entry ∈ plainEntries, Text.trim entry = entry ∧ entry ≠ [] := by decide
  have clean : ∀ entry ∈ plainEntries, ',' ∉ entry := by decide
  have decoded : decode [("fixZombiesKeys".toList, .bool true)] =
      .ok { fixZombies := some true } := rfl
  obtain ⟨read, same, -⟩ := ignore_eq_entries_iff trimmed (by decide) decoded
  have made := (read _ _ .joined (.refl _)).2
    "\x7b\"ignore\": \"src/gen,**/*.\x7bspec\x7d.ts\", \"fixZombiesKeys\": true\x7d".toList rfl
  rw [same.mpr clean] at made
  exact ⟨trimmed, clean, made⟩

/-- An entry with two alternatives, and a directory with a file that is one of them. -/
def testFiles : Text := "**/*.\x7bspec,mock\x7d.ts".toList

def mocks : Disk where
  tree := ⟨[(["src".toList], .directory), (["src".toList, "a.mock.ts".toList], .file none)]⟩
  directory := []

/-- The alternatives of an entry are cut apart, in an array as in a text, and then the entry ignores
none of the files that it ignores by itself. -/
theorem ignore_cuts_alternatives :
    Braces.Balanced testFiles ∧ Braces.InnerCommas testFiles ∧ Text.trim testFiles = testFiles ∧
      testFiles ≠ [] ∧
      ofText "\x7b\"ignore\":[\"**/*.\x7bspec,mock\x7d.ts\"]\x7d".toList =
        .ok { ignore := some ["**/*.\x7bspec".toList, "mock\x7d.ts".toList] } ∧
      ofText "\x7b\"ignore\":\"**/*.\x7bspec,mock\x7d.ts\"\x7d".toList =
        .ok { ignore := some ["**/*.\x7bspec".toList, "mock\x7d.ts".toList] } ∧
      mocks.resolve "src".toList [testFiles] ["ts".toList] = .ok [] ∧
      mocks.resolve "src".toList ["**/*.\x7bspec".toList, "mock\x7d.ts".toList] ["ts".toList] =
        .ok [[.name "src".toList, .name "a.mock.ts".toList]] := by
  obtain ⟨balanced, inner⟩ :=
    Braces.fits_zero_iff.mp (by decide : Braces.Fits 0 testFiles)
  exact ⟨balanced, inner, by decide, by decide, by decide +kernel, by decide +kernel,
    by decide +kernel, by decide +kernel⟩

end LocaleLint.Layer
