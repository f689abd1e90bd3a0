import Mathlib
import LocaleLint.Proofs.Pattern.Choice
import LocaleLint.Proofs.Pattern.Scan
import LocaleLint.Reference.Extraction

/-!
# Forms of references side by side

One pattern for several forms of references finds at each place what the first form finds that
matches there. So a form loses a key only to an earlier form that matches at the same place, or to
a match that begins earlier and reaches over it.
-/

namespace LocaleLint.KeyPattern

open Pattern

theorem compileAs_eq_ok {label source : Text} {pattern : Pattern} :
    compileAs label source = .ok pattern ↔ Pattern.compile flags source = .ok pattern :=
  mapError_eq_ok

private theorem forIn_compileAs (fragments : List Fragment) :
    (forIn fragments PUnit.unit fun fragment _ => do
      let _ ← compileAs fragment.label fragment.source
      return ForInStep.yield PUnit.unit : Except Failure PUnit) = .ok ⟨⟩ ↔
    ∀ fragment ∈ fragments, ∃ pattern, Pattern.compile flags fragment.source = .ok pattern := by
  induction fragments with
  | nil => simp [pure, Except.pure]
  | cons fragment rest ih =>
    rw [List.forIn_cons, List.forall_mem_cons, ← ih]
    cases first : compileAs fragment.label fragment.source with
    | error failure =>
      constructor
      · nofun
      · rintro ⟨⟨pattern, compiled⟩, -⟩
        rw [compileAs_eq_ok.mpr compiled] at first
        cases first
    | ok pattern =>
      rw [and_iff_right ⟨pattern, compileAs_eq_ok.mp first⟩]
      rfl

/-- Forms that compile each on its own make a pattern if they compile together. -/
theorem ofFragments_of_alone {fragments : List Fragment} (some : fragments ≠ [])
    (alone : ∀ fragment ∈ fragments, ∃ pattern,
      Pattern.compile flags fragment.source = .ok pattern) :
    ofFragments fragments = (compileAs (combine (fragments.map Fragment.source))
      (combine (fragments.map Fragment.source))).map fun pattern =>
        ⟨Option.some pattern, fragments.length⟩ := by
  have filled : fragments.isEmpty = false := by
    simpa using some
  unfold ofFragments
  rw [(forIn_compileAs fragments).mpr alone]
  simp only [filled]
  cases compileAs (combine (fragments.map Fragment.source))
    (combine (fragments.map Fragment.source)) <;> rfl

theorem ofFragments_eq_ok {fragments : List Fragment} (some : fragments ≠ [])
    {keyPattern : KeyPattern} :
    ofFragments fragments = .ok keyPattern ↔
      (∀ fragment ∈ fragments, ∃ pattern, Pattern.compile flags fragment.source = .ok pattern) ∧
        ∃ pattern, Pattern.compile flags (combine (fragments.map Fragment.source)) = .ok pattern ∧
          keyPattern = ⟨Option.some pattern, fragments.length⟩ := by
  constructor
  · intro made
    have alone : ∀ fragment ∈ fragments, ∃ pattern,
        Pattern.compile flags fragment.source = .ok pattern := by
      unfold ofFragments at made
      obtain ⟨_, each, _⟩ := bind_eq_ok.mp made
      exact (forIn_compileAs fragments).mp each
    rw [ofFragments_of_alone some alone] at made
    obtain ⟨pattern, compiled, rfl⟩ := map_eq_ok.mp made
    exact ⟨alone, pattern, compileAs_eq_ok.mp compiled, rfl⟩
  · rintro ⟨alone, pattern, compiled, rfl⟩
    rw [ofFragments_of_alone some alone, compileAs_eq_ok.mpr compiled]
    rfl

theorem combine_cons (source : Text) {sources : List Text} (some : sources ≠ []) :
    combine (source :: sources) = "(?:".toList ++ source ++ ')' :: '|' :: combine sources := by
  obtain ⟨next, rest, rfl⟩ := List.exists_cons_of_ne_nil some
  simp [combine, Text.joinWith]

/-- The pattern of a form alone does what a branch of a choice does. -/
structure Stands (fragment : Fragment) (own : Pattern) (branch : Branch) : Prop where
  of : branch.Of flags fragment.source
  matching : ∀ place, matchAt own.program place = matchAt branch.regex.program place
  groups : own.groupCount = branch.final.captures
  names : own.groupNames = branch.final.level.close.groupNames

/-- A form that compiles is a branch of every choice. -/
theorem exists_stands {fragment : Fragment} {own : KeyPattern}
    (compiled : ofFragments [fragment] = .ok own) :
    ∃ pattern branch, own.pattern = some pattern ∧ Stands fragment pattern branch := by
  obtain ⟨alone, pattern, grouped, rfl⟩ := (ofFragments_eq_ok (List.cons_ne_nil _ _)).mp compiled
  obtain ⟨_, alone⟩ := alone fragment List.mem_cons_self
  obtain ⟨final, regex, flags', finished, closed, -, meant, -⟩ := compile_eq_ok.mp alone
  obtain ⟨outer, _, _, finished', closed', -, -, -⟩ := compile_eq_ok.mp grouped
  have of : Branch.Of flags fragment.source ⟨final, regex⟩ :=
    ⟨.of_grouped finished closed finished' closed', flags', meant⟩
  obtain ⟨matching, groups, names, -⟩ := compile_choice (.cons of .nil) (List.cons_ne_nil _ _)
    grouped
  refine ⟨pattern, ⟨final, regex⟩, rfl, of, fun place => ?_, ?_, ?_⟩
  · rw [matching, numbered, numbered, List.findSome?_cons, List.findSome?_nil]
    dsimp only
    cases matchAt regex.program place with
    | none => rfl
    | some m => rw [Option.map_some, Match.shift_zero]
  · rw [groups]
    simp
  · rw [names]
    simp [numbered, namesOf]

private theorem firstFilled?_congr {ranges ranges' : List (Option (Nat × Nat))}
    (same : ranges.filterMap id = ranges'.filterMap id) (last : Option (Nat × Nat)) :
    firstFilled? (ranges ++ [last]) = firstFilled? (ranges' ++ [last]) := by
  rw [firstFilled?, firstFilled?, List.filterMap_append, List.filterMap_append, same]

/-- The key of a match of a branch is the key that the match has alone. -/
theorem keyOf?_shift {before after : List Branch} {branch : Branch} {fragment : Fragment}
    {own pattern : Pattern} (stands : Stands fragment own branch)
    (each : ∀ other ∈ before ++ branch :: after, ∃ source, other.Of flags source)
    (groups : pattern.groupCount = total (before ++ branch :: after))
    (names : pattern.groupNames = (numbered 0 (before ++ branch :: after)).flatMap namesOf)
    (distinct : ((before ++ branch :: after).flatMap fun branch => branch.final.names).Nodup)
    {place : Place} {m : Match} (found : matchAt own.program place = some m) (content : Text) :
    keyOf? pattern content (m.shift (total before)) = keyOf? own content m := by
  rw [stands.matching] at found
  have named : pattern.namedGroup? Fragment.declaredGroup (m.shift (total before)) =
      own.namedGroup? Fragment.declaredGroup m := by
    rw [Pattern.namedGroup?, Pattern.namedGroup?, names, stands.names]
    exact named_shift each stands.of distinct found _
  have marked := groups_shift before after stands.of found
  rw [← groups, ← stands.groups] at marked
  rw [keyOf?, keyOf?, named]
  cases own.namedGroup? Fragment.declaredGroup m with
  | some range => rfl
  | none =>
    dsimp only
    rw [firstFilled?_congr marked]
    rfl

def matchesIn (keyPattern : KeyPattern) (content : Text) : List Match :=
  keyPattern.pattern.elim [] (·.matchesIn content)

def keyIn? (keyPattern : KeyPattern) (content : Text) (m : Match) : Option FoundKey :=
  keyPattern.pattern.bind fun pattern => keyOf? pattern content m

def matchesAt (keyPattern : KeyPattern) (content : Text) (position : Nat) : Prop :=
  ∃ pattern, keyPattern.pattern = some pattern ∧
    (matchAt pattern.program ((Place.start content).advance position)).isSome

theorem extract_eq (keyPattern : KeyPattern) (content : Text) :
    keyPattern.extract content =
      (keyPattern.matchesIn content).filterMap (keyPattern.keyIn? content) := by
  unfold extract matchesIn keyIn?
  cases keyPattern.pattern <;> rfl

/-- A branch that some form is alone. -/
private def IsBranch (fragment : Fragment) (branch : Branch) : Prop :=
  ∃ own pattern, ofFragments [fragment] = .ok own ∧ own.pattern = some pattern ∧
    Stands fragment pattern branch

private theorem exists_branches {fragments : List Fragment}
    (each : ∀ fragment ∈ fragments, ∃ own, ofFragments [fragment] = .ok own) :
    ∃ branches, List.Forall₂ IsBranch fragments branches := by
  induction fragments with
  | nil => exact ⟨[], .nil⟩
  | cons fragment rest ih =>
    obtain ⟨branches, others⟩ := ih fun other inside => each other (List.mem_cons_of_mem _ inside)
    obtain ⟨own, compiled⟩ := each fragment List.mem_cons_self
    obtain ⟨pattern, branch, has, stands⟩ := exists_stands compiled
    exact ⟨branch :: branches, .cons ⟨own, pattern, compiled, has, stands⟩ others⟩

/-- Of several forms side by side, each finds the keys that it finds alone, unless an earlier form
matches at the same place, or a match that begins earlier reaches over it. -/
theorem mem_extract_or_overtaken {before after : List Fragment} {fragment : Fragment}
    {own combined : KeyPattern}
    (each : ∀ other ∈ before ++ fragment :: after, ∃ alone, ofFragments [other] = .ok alone)
    (alone : ofFragments [fragment] = .ok own)
    (compiled : ofFragments (before ++ fragment :: after) = .ok combined) (content : Text)
    {m : Match} (inside : m ∈ own.matchesIn content) {found : FoundKey}
    (yields : own.keyIn? content m = some found) :
    found ∈ combined.extract content ∨
      (∃ other ∈ before, ∃ earlier, ofFragments [other] = .ok earlier ∧
        earlier.matchesAt content m.start) ∨
      ∃ longer ∈ combined.matchesIn content, longer.start < m.start ∧ m.start ≤ longer.stop ∧
        (m.start = m.stop ∨ m.start < longer.stop) := by
  obtain ⟨first, behind⟩ := List.forall_mem_append.mp each
  obtain ⟨branchesBefore, standBefore⟩ := exists_branches first
  obtain ⟨branchesAfter, standAfter⟩ := exists_branches (List.forall_mem_cons.mp behind).2
  obtain ⟨pattern, branch, has, stands⟩ := exists_stands alone
  have branches : List.Forall₂ (Branch.Of flags)
      ((before ++ fragment :: after).map Fragment.source)
      (branchesBefore ++ branch :: branchesAfter) := by
    have of {fragment : Fragment} {branch : Branch} : IsBranch fragment branch →
        branch.Of flags fragment.source := fun ⟨_, _, _, _, stands⟩ => stands.of
    exact List.forall₂_map_left_iff.mpr (List.rel_append (standBefore.imp fun _ _ => of)
      (.cons stands.of (standAfter.imp fun _ _ => of)))
  obtain ⟨-, whole, grouped, rfl⟩ := (ofFragments_eq_ok (by simp)).mp compiled
  obtain ⟨matching, groups, names, distinct⟩ := compile_choice branches (by simp) grouped
  have sources : ∀ other ∈ branchesBefore ++ branch :: branchesAfter,
      ∃ source, other.Of flags source := by
    intro other member
    obtain ⟨source, -, of⟩ := exists_of_forall₂ branches.flip member
    exact ⟨source, of⟩
  simp only [matchesIn, keyIn?, has, Option.elim_some, Option.bind_some] at inside yields ⊢
  obtain ⟨early, here⟩ := matchAt_start inside
  have there := matching ((Place.start content).advance m.start)
  rw [numbered_middle, List.findSome?_append, List.findSome?_cons, ← stands.matching, here] at there
  cases ahead : (numbered 0 branchesBefore).findSome? fun branch =>
      (matchAt branch.2.regex.program ((Place.start content).advance m.start)).map
        (Match.shift branch.1) with
  | some earlier =>
    obtain ⟨other, member, found'⟩ := List.exists_of_findSome?_eq_some ahead
    obtain ⟨m', matched, -⟩ := Option.map_eq_some_iff.mp found'
    obtain ⟨source, member, alone', pattern', compiled', has', stands'⟩ :=
      exists_of_forall₂ standBefore.flip (mem_numbered member).1
    refine .inr (.inl ⟨source, member, alone', compiled', pattern', has', ?_⟩)
    rw [stands'.matching, matched]
    rfl
  | none =>
    rw [ahead, Option.none_or, Option.map_some] at there
    rcases matchesIn_covers early there with found' | covered
    · left
      rw [extract_eq, List.mem_filterMap]
      refine ⟨_, found', ?_⟩
      exact (keyOf?_shift stands sources groups names distinct here content).trans yields
    · exact .inr (.inr covered)

/-- The pattern for some forms, if they compile. -/
private def patternFor (fragments : List Fragment) : KeyPattern :=
  (ofFragments fragments).toOption.getD ⟨none, 0⟩

private theorem patternFor_eq (fragments : List Fragment)
    (compiles : (ofFragments fragments).toOption.isSome) :
    ofFragments fragments = .ok (patternFor fragments) := by
  unfold patternFor
  cases compiled : ofFragments fragments with
  | error failure =>
    rw [compiled] at compiles
    cases compiles
  | ok keyPattern => rfl

/-- A key in the opening tag of an element whose content is a key. -/
def tagged : Text := "<p class=\"\x7b\x7b 'A' | translate \x7d\x7d\" translate>B</p>".toList

set_option maxRecDepth 100000 in
theorem mem_extract_or_overtaken_tagged :
    let before := [Fragment.builtin .directiveContent, .builtin .directiveAttribute]
    let m : Match := ⟨13, 28, [(3, 15), (2, 14)]⟩
    ∃ own combined,
      (∀ other ∈ before ++ [.builtin .pipe], ∃ alone, ofFragments [other] = .ok alone) ∧
      ofFragments [.builtin .pipe] = .ok own ∧
      ofFragments (before ++ [.builtin .pipe]) = .ok combined ∧
      m ∈ own.matchesIn tagged ∧ own.keyIn? tagged m = some ⟨"A".toList, 14⟩ ∧
      (⟨"A".toList, 14⟩ ∈ combined.extract tagged ∨
        (∃ other ∈ before, ∃ earlier, ofFragments [other] = .ok earlier ∧
          earlier.matchesAt tagged m.start) ∨
        ∃ longer ∈ combined.matchesIn tagged, longer.start < m.start ∧ m.start ≤ longer.stop ∧
          (m.start = m.stop ∨ m.start < longer.stop)) := by
  intro before m
  have each : ∀ other ∈ before ++ [.builtin .pipe], ∃ alone, ofFragments [other] = .ok alone := by
    have compiles : ∀ other ∈ before ++ [.builtin .pipe],
        (ofFragments [other]).toOption.isSome := by decide +kernel
    exact fun other inside => ⟨_, patternFor_eq _ (compiles other inside)⟩
  have own := patternFor_eq [.builtin .pipe] (by decide +kernel)
  have combined := patternFor_eq (before ++ [.builtin .pipe]) (by decide +kernel)
  have inside : m ∈ (patternFor [.builtin .pipe]).matchesIn tagged := by decide +kernel
  have yields : (patternFor [.builtin .pipe]).keyIn? tagged m = some ⟨"A".toList, 14⟩ := by
    decide +kernel
  exact ⟨_, _, each, own, combined, inside, yields,
    mem_extract_or_overtaken each own combined tagged inside yields⟩

set_option maxRecDepth 100000 in
/-- A form that matches a whole opening tag hides the key in it. -/
theorem extract_loses_key :
    ¬ ∀ (declaredKeys customPatterns : List Text) (deep : Bool) (fragment : Fragment)
        (own combined : KeyPattern) (content : Text),
      fragment ∈ Fragment.compose declaredKeys customPatterns deep →
      ofFragments [fragment] = .ok own →
      ofFragments (Fragment.compose declaredKeys customPatterns deep) = .ok combined →
      ∀ found ∈ own.extract content, found.key ∈ (combined.extract content).map FoundKey.key := by
  intro claim
  have kept := claim [] [] false (.builtin .pipe) (patternFor [.builtin .pipe])
    (patternFor (Fragment.compose [] [] false)) tagged (by decide)
    (patternFor_eq _ (by decide +kernel)) (patternFor_eq _ (by decide +kernel)) ⟨"A".toList, 14⟩
    (by decide +kernel)
  have lost : "A".toList ∉ ((patternFor (Fragment.compose [] [] false)).extract tagged).map
      FoundKey.key := by decide +kernel
  exact lost kept

end LocaleLint.KeyPattern
