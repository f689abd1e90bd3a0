import Mathlib
import LocaleLint.Inventory
import LocaleLint.Proofs.Finding.Check
import LocaleLint.Proofs.Language.Catalog

/-!
# The inventory and the zombie rule

The inventory looks for the views that refer to a key, the zombie rule for the entries of files to
which no view refers. They agree: a key without views is reported once for each of its declarations,
and a key with views is not reported.
-/

namespace LocaleLint

/-- What the zombie rule reports of a declaration. -/
def zombieAt (severity : Severity) (name : Text) (declaration : Declaration) : Finding :=
  ⟨name, .zombie, severity, declaration.path, [], [], some ⟨declaration.line, 1⟩, none⟩

namespace Check

variable {catalog : Catalog} {views : List View}

/-- The zombies with a name in a file: one at its entry, unless the name is used. -/
private theorem zombies_in_file (used : List Text) (severity : Severity) (name : Text)
    {file : LanguageFile} (distinct : file.Distinct) :
    ((file.entries.filter fun entry => !used.contains entry.key).map
      (onEntry .zombie severity file)).filter (·.key = name) =
      if name ∈ used then []
      else ((Catalog.declarationIn? name file).map (zombieAt severity name)).toList := by
  have named : (file.entries.filter fun entry => !used.contains entry.key).filter (·.key = name) =
      (file.get? name).toList.filter fun entry => !used.contains entry.key := by
    rw [← LanguageFile.filter_entries distinct, List.filter_filter, List.filter_filter]
    simp only [Bool.and_comm]
  rw [List.filter_map]
  change ((file.entries.filter fun entry => !used.contains entry.key).filter (·.key = name)).map
    (onEntry .zombie severity file) = _
  rw [named, Catalog.declarationIn?]
  cases found : file.get? name with
  | none => simp
  | some entry =>
    obtain ⟨-, rfl⟩ := LanguageFile.get?_eq_some_iff.mp found
    by_cases here : entry.key ∈ used
    · simp [here]
    · simp [here]
      rfl

/-- The zombies with a name are at the declarations of the name, unless the name is used. -/
theorem findZombies_of_name (severity : Severity)
    (distinct : ∀ file ∈ catalog.files, file.Distinct) (used : List Text) (name : Text) :
    (findZombies severity catalog used).filter (·.key = name) =
      if name ∈ used then []
      else (catalog.declarationsOf name).map (zombieAt severity name) := by
  rw [Catalog.declarationsOf_eq distinct, findZombies, entriesWith, List.filter_flatMap]
  generalize catalog.files = files at distinct
  induction files with
  | nil => simp
  | cons file rest ih =>
    have others := ih fun file inside => distinct file (List.mem_cons_of_mem _ inside)
    have here := zombies_in_file used severity name (distinct file List.mem_cons_self)
    rw [List.flatMap_cons, here, others, List.filterMap_cons]
    split
    · rfl
    · cases Catalog.declarationIn? name file <;> rfl

end Check

namespace Inventory

/-- The views of a key are those in which some reference is to it. -/
theorem viewsOf_eq (views : List View) (name : Text) :
    viewsOf views name = (views.filter fun view =>
      ∃ occurrence ∈ view.occurrences, occurrence.key = name).map (·.path) := by
  unfold viewsOf
  congr 1
  exact List.filter_congr fun view _ => by rw [Bool.eq_iff_iff, View.refersTo_iff, decide_eq_true_iff]

theorem viewsOf_eq_nil_iff {views : List View} {name : Text} :
    viewsOf views name = [] ↔
      ¬ ∃ view ∈ views, ∃ occurrence ∈ view.occurrences, occurrence.key = name := by
  simp [viewsOf_eq]

/-- A key of the inventory has the declarations of its name, at least one, and the views that refer
to it. -/
theorem mem_keys {catalog : Catalog} {views : List View} {key : Key}
    (inside : key ∈ keys catalog views) :
    key.declarations = catalog.declarationsOf key.name ∧ key.declarations ≠ [] ∧
      key.views = viewsOf views key.name := by
  obtain ⟨own, listed, rfl⟩ := List.mem_map.mp inside
  rw [Catalog.keys_eq] at listed
  obtain ⟨name, declared, rfl⟩ := List.mem_map.mp listed
  refine ⟨?_, ?_, rfl⟩
  · change (Catalog.gathered _ name).declarations = catalog.declarationsOf name
    rw [Catalog.declarationsOf, Catalog.keys_eq, Catalog.find?_gathered, if_pos declared]
    rfl
  · rw [Catalog.keyNames_eq, List.mem_eraseDups] at declared
    obtain ⟨pair, gathered, named⟩ := List.mem_map.mp declared
    exact List.ne_nil_of_mem (List.mem_map_of_mem
      (List.mem_filter.mpr ⟨gathered, decide_eq_true named⟩))

/-- In a run in which the zombie rule runs once, a key of the inventory that has no views is
reported as a zombie, once at each of its declarations and in their order, and a key that has views
is not reported. The views of a key are those in which some reference is to it, in order. -/
theorem keys_agree_with_zombies {documents : List Document} {catalog : Catalog}
    (loaded : Catalog.ofDocuments documents = .ok catalog) (views : List View)
    (severity : Severity) {before after : List Check}
    (once : ∀ check ∈ before ++ after, check.rule ≠ .zombie) {key : Key}
    (inside : key ∈ keys catalog views) :
    let reported := (Check.runAll (before ++ .zombie severity :: after) catalog views).filter
      fun finding => finding.rule = .zombie ∧ finding.key = key.name
    (key.views = [] ↔ reported ≠ []) ∧
      (key.views = [] → reported = key.declarations.map (zombieAt severity key.name)) ∧
      (key.views ≠ [] → reported = []) ∧
      key.views = (views.filter fun view =>
        ∃ occurrence ∈ view.occurrences, occurrence.key = key.name).map (·.path) := by
  intro reported
  obtain ⟨declarations, some, located⟩ := mem_keys inside
  have only : (before ++ .zombie severity :: after).filter (·.rule = .zombie) =
      [.zombie severity] := by
    have none : ∀ checks : List Check, (∀ check ∈ checks, check ∈ before ++ after) →
        checks.filter (·.rule = .zombie) = [] := fun checks part =>
      List.filter_eq_nil_iff.mpr fun check inside => by simpa using once check (part check inside)
    rw [List.filter_append, List.filter_cons_of_pos (by rfl),
      none before fun _ => List.mem_append_left _, none after fun _ => List.mem_append_right _]
    rfl
  have found : reported = if key.name ∈ Check.usedKeys views then []
      else key.declarations.map (zombieAt severity key.name) := by
    have zombies := @Check.filter_rule_runAll catalog views .zombie (by decide)
      (before ++ .zombie severity :: after)
    rw [only, List.flatMap_singleton] at zombies
    rw [declarations, ← Check.findZombies_of_name severity (Catalog.distinct_of_loaded loaded)]
    change _ = (Check.run (.zombie severity) catalog views (Check.usedKeys views) []).filter _
    rw [← zombies, List.filter_filter]
    simp only [reported, Bool.decide_and, Bool.and_comm]
  -- The rule asks the keys that are used anywhere, the inventory each view: both mean a reference.
  have unused : key.views = [] ↔ key.name ∉ Check.usedKeys views := by
    rw [located, viewsOf_eq_nil_iff, Check.mem_usedKeys_iff]
  refine ⟨?_, fun alone => by rw [found, if_neg (unused.mp alone)], fun viewed => ?_,
    located.trans (viewsOf_eq views key.name)⟩
  · rw [unused, found]
    by_cases here : key.name ∈ Check.usedKeys views
    · simp [here]
    · simpa [here] using some
  · rw [found, if_pos (not_not.mp (viewed ∘ unused.mpr))]

/-- A view that refers to one of the keys of two files, and one that refers to another key. -/
def sharingViews : List View :=
  [⟨"app.html".toList, [⟨"A".toList, 1, 5, "\x7b\x7b 'A' | translate".toList⟩]⟩,
    ⟨"home.html".toList, [⟨"E".toList, 1, 5, "\x7b\x7b 'E' | translate".toList⟩]⟩]

/-- The key that both files declare and no view uses, as it stands in the inventory. -/
def sharedKey : Key :=
  ⟨"B.C".toList, [⟨"i18n/en.json".toList, "en".toList, "c".toList, 1⟩,
    ⟨"i18n/de.json".toList, "de".toList, "cc".toList, 2⟩], []⟩

/-- The key that the first view uses. -/
def viewedKey : Key :=
  ⟨"A".toList, [⟨"i18n/en.json".toList, "en".toList, "a".toList, 1⟩], ["app.html".toList]⟩

set_option maxRecDepth 100000 in
theorem keys_agree_with_zombies_sharing :
    let reported := fun key : Key =>
      (Check.runAll ([.empty .warning] ++ .zombie .error :: [.absent .error])
        Catalog.sharingCatalog sharingViews).filter
          fun finding => finding.rule = .zombie ∧ finding.key = key.name
    Catalog.ofDocuments Catalog.sharing = .ok Catalog.sharingCatalog ∧
      (∀ check ∈ [Check.empty .warning] ++ [.absent .error], check.rule ≠ .zombie) ∧
      sharedKey ∈ keys Catalog.sharingCatalog sharingViews ∧
      viewedKey ∈ keys Catalog.sharingCatalog sharingViews ∧
      reported sharedKey = sharedKey.declarations.map (zombieAt .error sharedKey.name) ∧
      reported viewedKey = [] ∧
      viewedKey.views = (sharingViews.filter fun view =>
        ∃ occurrence ∈ view.occurrences, occurrence.key = viewedKey.name).map (·.path) := by
  have loaded : Catalog.ofDocuments Catalog.sharing = .ok Catalog.sharingCatalog := by
    decide +kernel
  have once : ∀ check ∈ [Check.empty .warning] ++ [.absent .error], check.rule ≠ .zombie := by
    decide
  have unused : sharedKey ∈ keys Catalog.sharingCatalog sharingViews := by decide +kernel
  have used : viewedKey ∈ keys Catalog.sharingCatalog sharingViews := by decide +kernel
  obtain ⟨-, reported, -, -⟩ := keys_agree_with_zombies loaded sharingViews .error once unused
  obtain ⟨-, -, silent, views⟩ := keys_agree_with_zombies loaded sharingViews .error once used
  exact ⟨loaded, once, unused, used, reported rfl, silent (List.cons_ne_nil _ _), views⟩

end Inventory

end LocaleLint
