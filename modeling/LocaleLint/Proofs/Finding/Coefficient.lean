import Mathlib
import LocaleLint.Proofs.Finding.Check
import LocaleLint.Proofs.Finding.Ranking
import LocaleLint.Proofs.Language.Table

/-!
# Greater coefficients

A greater coefficient cuts the end of each ranking off and leaves the rest as it is. So the misprints
are the same but for their last suggestions, and one goes away only if no suggestion is left.
-/

namespace LocaleLint

/-- In a list where an item passes a test if one behind it does, those that pass come first. -/
theorem takeWhile_eq_filter {α : Type} {p : α → Bool} {l : List α}
    (descending : l.Pairwise fun a b => p b = true → p a = true) : l.takeWhile p = l.filter p := by
  induction l with
  | nil => rfl
  | cons a l ih =>
    obtain ⟨first, others⟩ := List.pairwise_cons.mp descending
    by_cases passes : p a = true
    · rw [List.takeWhile_cons_of_pos passes, List.filter_cons_of_pos passes, ih others]
    · have none : l.filter p = [] := List.filter_eq_nil_iff.mpr fun b inside found =>
        passes (first b inside found)
      rw [List.takeWhile_cons_of_neg passes, List.filter_cons_of_neg passes, none]

/-- What is made of some items of a list stands, in order, for these items. -/
theorem sublistForall₂_filterMap_self {α β : Type} {R : β → α → Prop} {f : α → Option β}
    (related : ∀ {a b}, f a = some b → R b a) (l : List α) :
    List.SublistForall₂ R (l.filterMap f) l := by
  have self : List.SublistForall₂ Eq l l :=
    sublistForall₂_of_forall₂ (List.forall₂_same.mpr fun _ _ => rfl)
  have keeps : ∀ {a c b}, a = c → f a = some b → ∃ d, some c = some d ∧ R b d := by
    rintro a _ b rfl image
    exact ⟨a, rfl, related image⟩
  simpa using sublistForall₂_filterMap (R := Eq) (g := some) keeps self

/-- A finding that is the same as another one, but for suggestions at the end of the list. -/
structure Finding.Truncates (short finding : Finding) : Prop where
  same : short = { finding with suggestions := short.suggestions }
  suggestions : short.suggestions <+: finding.suggestions

theorem Finding.Truncates.refl (finding : Finding) : finding.Truncates finding :=
  ⟨rfl, List.prefix_rfl⟩

theorem Finding.Truncates.rule {short finding : Finding} (truncates : short.Truncates finding) :
    short.rule = finding.rule := by
  rw [truncates.same]

namespace Check

open EditDistance

variable {low high : Double} {severity : Severity} {ignored : List Text} {catalog : Catalog}

theorem IsRanking.takeWhile {suspect : Text} {keys : List Text} (raised : low.le high = true)
    (ranking : IsRanking low ignored catalog suspect keys) :
    IsRanking high ignored catalog suspect
      (keys.takeWhile fun key => high.le (score suspect key)) := by
  have first := ranking.descending.imp fun {a b} closer (enough : high.le (score suspect b) = true) =>
    Double.le_trans enough closer
  rw [takeWhile_eq_filter first]
  refine ⟨ranking.nodup.filter _, fun key => ?_, ranking.descending.filter _,
    ranking.steady.filter _⟩
  rw [List.mem_filter, ranking.mem_iff]
  constructor
  · rintro ⟨⟨declared, differs, kept, -⟩, enough⟩
    exact ⟨declared, differs, kept, enough⟩
  · rintro ⟨declared, differs, kept, enough⟩
    exact ⟨⟨declared, differs, kept, Double.le_trans raised enough⟩, enough⟩

/-- A finding without the suggestions that are less similar than a coefficient asks, unless none is
left. -/
def truncated? (coefficient : Double) (finding : Finding) : Option Finding :=
  match finding.suggestions.takeWhile fun key => coefficient.le (score finding.key key) with
  | [] => none
  | suggestions => some { finding with suggestions := suggestions }

theorem truncates_of_truncated? {short finding : Finding}
    (cut : truncated? high finding = some short) : short.Truncates finding := by
  unfold truncated? at cut
  split at cut
  · cases cut
  · cases cut
    exact ⟨rfl, List.takeWhile_prefix _⟩

theorem misprintOf?_raised (raised : low.le high = true) (suspect : Finding) :
    misprintOf? severity high ignored catalog.keyNames suspect =
      (misprintOf? severity low ignored catalog.keyNames suspect).bind (truncated? high) := by
  have ranking : IsRanking low ignored catalog suspect.key _ := isRanking_similarTo
  have cut := (isRanking_iff.mp (ranking.takeWhile raised)).symm
  unfold misprintOf?
  rw [cut]
  cases similarTo low ignored catalog.keyNames suspect.key with
  | nil => rfl
  | cons key others => rfl

theorem findMisprints_raised (raised : low.le high = true) (severity : Severity)
    (ignored : List Text) (catalog : Catalog) (earlier : List Finding) :
    findMisprints severity high ignored catalog earlier =
      (findMisprints severity low ignored catalog earlier).filterMap (truncated? high) := by
  unfold findMisprints
  dsimp only
  rw [List.filterMap_filterMap]
  exact List.filterMap_congr fun suspect _ => misprintOf?_raised raised suspect

/-- What a check finds depends on the suspects among the earlier findings only. -/
theorem run_congr (catalog : Catalog) (views : List View) (used : List Text)
    {earlier others : List Finding}
    (same : earlier.filter isSuspect = others.filter isSuspect) (check : Check) :
    check.run catalog views used earlier = check.run catalog views used others := by
  cases check with
  | misprint severity coefficient ignored =>
    have split : ∀ findings : List Finding,
        (findings.filter fun f => isSuspect f && !ignored.contains f.key) =
          (findings.filter isSuspect).filter fun f => !ignored.contains f.key := by
      intro findings
      rw [List.filter_filter]
      exact List.filter_congr fun f _ => Bool.and_comm _ _
    unfold run findMisprints
    dsimp only
    rw [split, split, same]
  | _ => rfl

/-- Checks that run behind different findings with the same suspects find the same. -/
theorem exists_foldl_eq (catalog : Catalog) (views : List View) (used : List Text)
    (checks : List Check) {earlier others : List Finding}
    (same : earlier.filter isSuspect = others.filter isSuspect) :
    ∃ more,
      checks.foldl (fun e check => e ++ check.run catalog views used e) earlier = earlier ++ more ∧
      checks.foldl (fun e check => e ++ check.run catalog views used e) others = others ++ more := by
  induction checks generalizing earlier others with
  | nil => exact ⟨[], by simp, by simp⟩
  | cons check checks ih =>
    have found := run_congr catalog views used same check
    have next : (earlier ++ check.run catalog views used earlier).filter isSuspect =
        (others ++ check.run catalog views used others).filter isSuspect := by simp [same, found]
    obtain ⟨more, left, right⟩ := ih next
    exact ⟨check.run catalog views used earlier ++ more, by simp [left], by simp [right, found]⟩

theorem filter_isSuspect_misprints (coefficient : Double) (earlier : List Finding) :
    (findMisprints severity coefficient ignored catalog earlier).filter isSuspect = [] := by
  refine List.filter_eq_nil_iff.mpr fun finding inside => ?_
  simp [isSuspect, rule_of_mem_findMisprints inside]

/-- Behind the rule the other checks go on from what it has found. -/
theorem runAll_around (coefficient : Double) (before after : List Check) (catalog : Catalog)
    (views : List View) :
    runAll (before ++ .misprint severity coefficient ignored :: after) catalog views =
      after.foldl (fun e check => e ++ check.run catalog views (usedKeys views) e)
        (runAll before catalog views ++
          findMisprints severity coefficient ignored catalog (runAll before catalog views)) := by
  simp [runAll, run]

/-- With a greater coefficient each misprint of a run is one that has been found before, in order,
with the first of its suggestions. Of the rule's own misprints those are left that keep some. -/
theorem misprints_truncated (raised : low.le high = true) (severity : Severity)
    (ignored : List Text) (before after : List Check) (catalog : Catalog) (views : List View) :
    List.SublistForall₂ Finding.Truncates
        ((runAll (before ++ .misprint severity high ignored :: after) catalog views).filter
          (·.rule = .misprint))
        ((runAll (before ++ .misprint severity low ignored :: after) catalog views).filter
          (·.rule = .misprint)) ∧
      (Check.misprint severity high ignored).run catalog views (usedKeys views)
          (runAll before catalog views) =
        ((Check.misprint severity low ignored).run catalog views (usedKeys views)
          (runAll before catalog views)).filterMap (truncated? high) := by
  have suspects : ∀ coefficient, (runAll before catalog views ++
      findMisprints severity coefficient ignored catalog (runAll before catalog views)).filter
        isSuspect = (runAll before catalog views).filter isSuspect :=
    fun coefficient => by simp [filter_isSuspect_misprints]
  obtain ⟨more, left, right⟩ := exists_foldl_eq catalog views (usedKeys views) after
    ((suspects high).trans (suspects low).symm)
  have self : ∀ findings, List.SublistForall₂ Finding.Truncates findings findings := fun _ =>
    sublistForall₂_of_forall₂ (List.forall₂_same.mpr fun finding _ => .refl finding)
  have own := findMisprints_raised raised severity ignored catalog (runAll before catalog views)
  refine ⟨sublistForall₂_filter (fun truncates misprint => truncates.rule ▸ misprint) ?_, own⟩
  rw [runAll_around, runAll_around, left, right, own]
  have cut : List.SublistForall₂ Finding.Truncates _ _ := sublistForall₂_filterMap_self
    (f := truncated? high) truncates_of_truncated?
    (findMisprints severity low ignored catalog (runAll before catalog views))
  exact sublistForall₂_append (sublistForall₂_append (self _) cut) (self more)

/-- A file with three keys that are much alike. -/
def homes : Catalog where
  files := [.ofEntries "en.json".toList "en".toList [⟨"HOME".toList, "x".toList, 2⟩,
    ⟨"HOMES".toList, "y".toList, 3⟩, ⟨"ROME".toList, "z".toList, 4⟩]]

/-- A view that refers to a key that is much like them. -/
def homer : View where
  path := "app.html".toList
  occurrences := [⟨"HOMER".toList, 1, 2, "'HOMER' | translate".toList⟩]

def aboutHomer (rule : Rule) (severity : Severity) (suggestions : List Text) : Finding :=
  ⟨"HOMER".toList, rule, severity, "app.html".toList, ["en.json".toList], suggestions,
    some ⟨1, 2⟩, some "'HOMER' | translate".toList⟩

/-- The misprints that are found when three rules run, with a coefficient. -/
def misprintsAt (coefficient : Double) : List Finding :=
  (runAll ([.absent .error] ++ .misprint .warning coefficient [] :: [.empty .warning]) homes
    [homer]).filter (·.rule = .misprint)

theorem misprintsAt_eq {coefficient : Double} {key : Text} {keys : List Text}
    (similar : similarTo coefficient [] homes.keyNames "HOMER".toList = key :: keys) :
    misprintsAt coefficient = [aboutHomer .misprint .warning (key :: keys)] := by
  have absent : findAbsent .error homes [homer] = [aboutHomer .absent .error []] := by
    decide +kernel
  have found : misprintOf? .warning coefficient [] homes.keyNames (aboutHomer .absent .error []) =
      some (aboutHomer .misprint .warning (key :: keys)) :=
    misprintOf?_eq_some_iff.mpr ⟨similar ▸ List.cons_ne_nil key keys, similar ▸ rfl⟩
  have misprints : findMisprints .warning coefficient [] homes [aboutHomer .absent .error []] =
      [aboutHomer .misprint .warning (key :: keys)] := by
    change [aboutHomer .absent .error []].filterMap _ = _
    rw [List.filterMap_cons_some found, List.filterMap_nil]
  have empty : findEmpty .warning homes = [] := by decide +kernel
  change (findAbsent .error homes [homer] ++ findMisprints .warning coefficient [] homes
    (findAbsent .error homes [homer]) ++ findEmpty .warning homes).filter _ = _
  rw [absent, misprints, empty]
  rfl

theorem misprints_truncated_homes :
    (Double.nearest false 1 2).le (.nearest false 4 5) = true ∧
      misprintsAt (.nearest false 1 2) =
        [aboutHomer .misprint .warning ["HOME".toList, "HOMES".toList, "ROME".toList]] ∧
      misprintsAt (.nearest false 4 5) =
        [aboutHomer .misprint .warning ["HOME".toList, "HOMES".toList]] ∧
      List.SublistForall₂ Finding.Truncates (misprintsAt (.nearest false 4 5))
        (misprintsAt (.nearest false 1 2)) := by
  have raised : (Double.nearest false 1 2).le (.nearest false 4 5) = true := by decide +kernel
  refine ⟨raised, misprintsAt_eq ?_, misprintsAt_eq ?_, (misprints_truncated raised .warning []
    [.absent .error] [.empty .warning] homes [homer]).1⟩
  · rw [similarTo_eq, List.mergeSort_of_pairwise]
    · decide +kernel
    · decide +kernel
  · rw [similarTo_eq, List.mergeSort_of_pairwise]
    · decide +kernel
    · decide +kernel

end Check

end LocaleLint
