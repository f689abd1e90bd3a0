import Mathlib
import LocaleLint.Proofs.Reference.Validity
import LocaleLint.Proofs.Sorting
import LocaleLint.Proofs.Text.Lines
import LocaleLint.Reference.View

/-!
# Where the keys of a view stand

A key that is found in a content is a filled part of a match, and matches do not overlap. So the
keys of a view follow one another in the content, and the place of each of them leads to it, by
bytes and by lines and columns. That needs that only declared keys are in the group with their name:
another group of that name may take part in a match and be empty.
-/

namespace LocaleLint

namespace KeyPattern

open Pattern Fragment

section
variable {declaredKeys customPatterns : List Text} {deep : Bool} {keyPattern : KeyPattern}
  (compiled : ofFragments (compose declaredKeys customPatterns deep) = .ok keyPattern)
  (free : ¬ TakesDeclaredGroup customPatterns)
include compiled free

/-- The key of a match is a filled part of it. -/
theorem isPart_of_keyRange? {pattern : Pattern} (has : keyPattern.pattern = some pattern)
    {place : Place} {m : Match} (found : matchAt pattern.program place = some m) {content : Text}
    {range : Nat × Nat} (ranged : keyRange? pattern content m = some range) : IsPart m range := by
  by_cases shallow : deep = false ∨ searchOrder declaredKeys = []
  · have compiled' : ofFragments (compose [] customPatterns false) = .ok keyPattern := by
      rcases shallow with rfl | none
      · exact compiled
      · cases deep with
        | false => exact compiled
        | true => rwa [compose_deep, if_pos none] at compiled
    obtain ⟨-, _, whole, rfl⟩ := (ofFragments_eq_ok (compose_shallow_ne_nil _ _)).mp compiled'
    cases has
    refine isPart_of_undeclared whole found (namedGroup?_eq_none (fun name inside same => ?_) m)
      ranged
    exact free ⟨_, pattern, compiled', rfl,
      List.mem_map.mpr ⟨name, inside, List.mem_singleton.mp same⟩⟩
  · obtain ⟨always, filled⟩ := not_or.mp shallow
    obtain rfl : deep = true := Bool.eq_true_of_not_eq_false always
    obtain ⟨_, compiled'⟩ := exists_shallow filled compiled
    obtain ⟨_, pattern', both, whole, -, has', prefers, count, names, fresh⟩ :=
      exists_prefers filled compiled' compiled
    cases has.symm.trans has'
    rcases Option.or_eq_some_iff.mp ((prefers place).symm.trans found) with declared | ⟨-, other⟩
    · obtain ⟨key, member, -, rfl⟩ := exists_key_of_matchAt filled declared
      have named : pattern.namedGroup? declaredGroup (declaredMatch 1 place key) =
          some (place.position, place.position + key.length) := by
        rw [Pattern.namedGroup?, names, List.lookup_cons_self]
        exact group?_declaredMatch 1 place key
      have more := List.length_pos_of_ne_nil (mem_searchOrder.mp member).2
      rw [keyRange?, named] at ranged
      dsimp only at ranged
      split at ranged <;> cases ranged
      exact ⟨Nat.le_refl _, Nat.lt_add_of_pos_right more, Nat.le_refl _⟩
    · obtain ⟨m, at_, rfl⟩ := Option.map_eq_some_iff.mp other
      rw [keyRange?_behind whole fresh at_ count names] at ranged
      exact isPart_of_undeclared whole at_ (namedGroup?_eq_none fresh m) ranged

/-- The keys of a content are filled parts of it, one behind the other. -/
theorem exists_ranges (content : Text) :
    ∃ ranges : List (Nat × Nat), keyPattern.extract content = ranges.map (keyAt content) ∧
      (∀ range ∈ ranges, range.1 < range.2 ∧ range.2 ≤ content.length) ∧
      ranges.Pairwise fun range later => range.2 ≤ later.1 := by
  cases has : keyPattern.pattern with
  | none => exact ⟨[], by rw [extract, has]; rfl, nofun, .nil⟩
  | some pattern =>
    have part {m : Match} (inside : m ∈ pattern.matchesIn content) {range : Nat × Nat}
        (ranged : keyRange? pattern content m = some range) :
        IsPart m range ∧ m.stop ≤ content.length := by
      obtain ⟨early, found⟩ := matchAt_start inside
      refine ⟨isPart_of_keyRange? compiled free has found ranged, ?_⟩
      have bounds := (matchAt_bounds found).2.2
      rw [Place.position_advance_start early, Place.rest_advance, List.length_drop] at bounds
      change m.stop ≤ m.start + (content.length - m.start) at bounds
      omega
    refine ⟨(pattern.matchesIn content).filterMap (keyRange? pattern content), ?_, ?_, ?_⟩
    · rw [extract, has, List.map_filterMap]
      exact List.filterMap_congr fun m _ => keyOf?_eq_map pattern content m
    · intro range inside
      obtain ⟨m, inside, ranged⟩ := List.mem_filterMap.mp inside
      obtain ⟨⟨-, filled, last⟩, stop⟩ := part inside ranged
      exact ⟨filled, last.trans stop⟩
    · refine List.pairwise_filterMap.mpr ?_
      refine (pairwise_matchesFrom _ _ _ _).imp_of_mem fun inside inside' apart => ?_
      intro range ranged later ranged'
      exact (part inside ranged).1.2.2.trans (apart.trans (part inside' ranged').1.1)

end

theorem keyAt_split (content : Text) {first last : Nat} (ordered : first ≤ last) :
    content.take first ++ (keyAt content (first, last)).key = content.take last := by
  have more : last = first + (last - first) := by omega
  rw [keyAt, more, List.take_add, Nat.add_sub_cancel_left]

/-- A pattern of the user has, on its own, a group with the name of the group of declared keys. -/
def NamesDeclaredGroup (custom : Text) : Prop :=
  ∃ own, Pattern.compile flags (Fragment.custom custom).source = .ok own ∧
    declaredGroup ∈ own.groupNames.map Prod.fst

instance (custom : Text) : Decidable (NamesDeclaredGroup custom) :=
  decidable_of_iff ((Pattern.compile flags (Fragment.custom custom).source).toOption.any
      fun own => (own.groupNames.map Prod.fst).contains declaredGroup) <| by
    unfold NamesDeclaredGroup
    cases Pattern.compile flags (Fragment.custom custom).source <;> simp [Except.toOption]

end KeyPattern

/-- A key stands in a content at its byte offset, and is not empty. -/
def FoundKey.StandsIn (found : FoundKey) (content : Text) : Prop :=
  found.key ≠ [] ∧ ∃ before after, content = before ++ found.key ++ after ∧
    found.offset = Text.utf8Length before

/-- A key ends before another one starts. -/
def FoundKey.EndsBefore (found later : FoundKey) : Prop :=
  found.offset + Text.utf8Length found.key ≤ later.offset

namespace KeyPattern

theorem standsIn_keyAt {content : Text} {first last : Nat} (filled : first < last)
    (inside : last ≤ content.length) : (keyAt content (first, last)).StandsIn content := by
  refine ⟨fun none => ?_, content.take first, content.drop last, ?_, rfl⟩
  · have length := congrArg List.length none
    rw [keyAt, List.length_take, List.length_drop, List.length_nil] at length
    omega
  · rw [keyAt_split content (Nat.le_of_lt filled), List.take_append_drop]

theorem endsBefore_keyAt {content : Text} {range later : Nat × Nat} (filled : range.1 < range.2)
    (apart : range.2 ≤ later.1) : (keyAt content range).EndsBefore (keyAt content later) := by
  have whole := keyAt_split content (Nat.le_of_lt filled)
  obtain ⟨between, reaches⟩ : content.take range.2 <+: content.take later.1 :=
    List.take_prefix_take_left apart
  have length : Text.utf8Length (content.take range.1) +
      Text.utf8Length (keyAt content range).key + Text.utf8Length between =
        Text.utf8Length (content.take later.1) := by
    rw [← reaches, ← whole, Text.utf8Length_append, Text.utf8Length_append]
  exact Nat.le.intro length

end KeyPattern

namespace Occurrence

/-- An occurrence stands on an earlier line than another one, or on the same line in an earlier
column. -/
def Before (occurrence later : Occurrence) : Prop :=
  Prod.Lex (· < ·) (· < ·) (occurrence.line, occurrence.column) (later.line, later.column)

theorem Before.asymm {occurrence later : Occurrence} (before : occurrence.Before later) :
    ¬ later.Before occurrence := by
  rw [Before, Prod.lex_def] at before ⊢
  omega

/-- The key of an occurrence stands in its line, in its column. -/
def ShowsKey (occurrence : Occurrence) : Prop :=
  occurrence.key <+: occurrence.sourceLine.drop (occurrence.column - 1)

end Occurrence

namespace View

open KeyPattern Fragment

variable {content : Text} {found later : FoundKey}

theorem before_locate (stands : found.StandsIn content) (stands' : later.StandsIn content)
    (apart : found.EndsBefore later) :
    (locate content (.ofText content) found).Before (locate content (.ofText content) later) := by
  obtain ⟨filled, before, after, split, offset⟩ := stands
  obtain ⟨-, before', after', split', offset'⟩ := stands'
  have positive : 0 < found.key.utf8Length :=
    Nat.pos_of_ne_zero fun none => filled (Text.eq_nil_of_utf8Length none)
  have sooner : found.offset < later.offset := (Nat.lt_add_of_pos_right positive).trans_le apart
  refine LineIndex.lineCol_lt ⟨before, found.key ++ after, ?_, offset.symm⟩
    ⟨before', later.key ++ after', ?_, offset'.symm⟩ sooner
  · rw [split, List.append_assoc]
  · rw [split', List.append_assoc]

theorem showsKey_locate (stands : found.StandsIn content) (feed : '\n' ∉ found.key)
    (plain : '\r' ∉ found.key) : (locate content (.ofText content) found).ShowsKey := by
  obtain ⟨-, before, after, rfl, offset⟩ := stands
  obtain ⟨text, read, begins⟩ := LineIndex.prefix_lineText feed plain before after
  rw [← offset] at read begins
  have line : (locate _ (.ofText _) found).sourceLine = text := congrArg (Option.getD · []) read
  rw [Occurrence.ShowsKey, line]
  exact begins

section
variable {declaredKeys customPatterns : List Text} {deep : Bool} {keyPattern : KeyPattern}
  (compiled : ofFragments (compose declaredKeys customPatterns deep) = .ok keyPattern)
  (free : ¬ TakesDeclaredGroup customPatterns)
include compiled free

/-- The keys of a content stand in it, each before the next one. -/
theorem standsIn_extract (content : Text) :
    (∀ found ∈ keyPattern.extract content, found.StandsIn content) ∧
      (keyPattern.extract content).Pairwise FoundKey.EndsBefore := by
  obtain ⟨ranges, extracts, filled, apart⟩ := exists_ranges compiled free content
  rw [extracts]
  constructor
  · intro found inside
    obtain ⟨range, listed, rfl⟩ := List.mem_map.mp inside
    exact standsIn_keyAt (filled range listed).1 (filled range listed).2
  · refine List.pairwise_map.mpr (apart.imp_of_mem fun inside _ behind => ?_)
    exact endsBefore_keyAt (filled _ inside).1 behind

/-- Keys that are found in a view stand in it one behind the other. Their occurrences follow one
another by lines and columns, so the first one of a key is the earliest one, and where a key has no
line end in it, it is shown in its line. -/
theorem occurrences_point_at_keys (document : Document) :
    (∀ found ∈ keyPattern.extract document.content, found.StandsIn document.content) ∧
    (keyPattern.extract document.content).Pairwise FoundKey.EndsBefore ∧
    (ofDocument keyPattern document).occurrences.Pairwise Occurrence.Before ∧
    (∀ key first, (ofDocument keyPattern document).first? key = some first ↔
      first ∈ (ofDocument keyPattern document).occurrences ∧ first.key = key ∧
        ∀ other ∈ (ofDocument keyPattern document).occurrences, other.key = key →
          other = first ∨ first.Before other) ∧
    ∀ occurrence ∈ (ofDocument keyPattern document).occurrences,
      '\n' ∉ occurrence.key → '\r' ∉ occurrence.key → occurrence.ShowsKey := by
  obtain ⟨stands, apart⟩ := standsIn_extract compiled free document.content
  have ordered : (ofDocument keyPattern document).occurrences.Pairwise Occurrence.Before :=
    List.pairwise_map.mpr (apart.imp_of_mem fun inside inside' =>
      before_locate (stands _ inside) (stands _ inside'))
  refine ⟨stands, apart, ordered, fun key first => ?_, fun occurrence inside feed plain => ?_⟩
  · rw [first?, find?_eq_some_iff_of_pairwise (fun _ _ => Occurrence.Before.asymm) ordered]
    simp only [decide_eq_true_eq]
  · obtain ⟨found, extracted, rfl⟩ := List.mem_map.mp inside
    exact showsKey_locate (stands found extracted) feed plain

end

/-- A pattern for calls with a key in quotes. -/
def callPatterns : List Text := ["t\\('(\\w+)'\\)".toList]

/-- A content with a call in its first line and a declared key in its second one. -/
def called : Text := "x = t('A');\ny = HOME;".toList

set_option maxRecDepth 100000 in
theorem occurrences_point_at_keys_called : ∃ keyPattern,
    ofFragments (compose ["HOME".toList] callPatterns true) = .ok keyPattern ∧
      ¬ TakesDeclaredGroup callPatterns ∧
      keyPattern.extract called = [⟨"A".toList, 7⟩, ⟨"HOME".toList, 16⟩] ∧
      (∀ found ∈ keyPattern.extract called, found.StandsIn called) ∧
      (ofDocument keyPattern ⟨"app.ts".toList, called⟩).occurrences =
        [⟨"A".toList, 1, 8, "x = t('A');".toList⟩, ⟨"HOME".toList, 2, 5, "y = HOME;".toList⟩] ∧
      (ofDocument keyPattern ⟨"app.ts".toList, called⟩).occurrences.Pairwise Occurrence.Before ∧
      ∀ occurrence ∈ (ofDocument keyPattern ⟨"app.ts".toList, called⟩).occurrences,
        '\n' ∉ occurrence.key → '\r' ∉ occurrence.key → occurrence.ShowsKey := by
  have runs : (ofFragments (compose ["HOME".toList] callPatterns true)).toOption.map
      (·.extract called) = some [⟨"A".toList, 7⟩, ⟨"HOME".toList, 16⟩] := by
    rw [ofFragments_compose]
    decide +kernel
  have filled : searchOrder ["HOME".toList] ≠ [] :=
    List.ne_nil_of_mem (mem_searchOrder.mpr ⟨List.mem_singleton_self _, by decide⟩)
  cases compiled : ofFragments (compose ["HOME".toList] callPatterns true) with
  | error failure =>
    rw [compiled] at runs
    cases runs
  | ok keyPattern =>
    rw [compiled] at runs
    have extracts : keyPattern.extract called = [⟨"A".toList, 7⟩, ⟨"HOME".toList, 16⟩] :=
      Option.some.inj runs
    have free := not_takesDeclaredGroup_of_deep filled compiled
    obtain ⟨stands, -, ordered, -, shows⟩ :=
      occurrences_point_at_keys compiled free ⟨"app.ts".toList, called⟩
    refine ⟨keyPattern, rfl, free, extracts, stands, ?_, ordered, shows⟩
    change (keyPattern.extract called).map (locate called (.ofText called)) = _
    rw [extracts]
    decide +kernel

/-- A pattern with a comment that is still open at its end, and a set of characters that reads like
a group with the name of the one of declared keys. -/
def openPatterns : List Text := ["(?x)=#".toList, "[\n(?P<declared>)]".toList]

set_option maxRecDepth 100000 in
/-- Put together, the comment of one pattern takes the start of the next one away, and what is left
of that is an empty group with the name of the one of declared keys. -/
theorem extract_finds_empty_key :
    ¬ ∀ (declaredKeys customPatterns : List Text) (deep : Bool) (keyPattern : KeyPattern)
        (content : Text),
      ofFragments (compose declaredKeys customPatterns deep) = .ok keyPattern →
      (∀ custom ∈ customPatterns, ¬ NamesDeclaredGroup custom) →
        ∀ found ∈ keyPattern.extract content, found.key ≠ [] := by
  intro claim
  have runs : (ofFragments (compose [] openPatterns false)).toOption.map
      (·.extract "=]".toList) = some [⟨[], 1⟩] := by
    rw [ofFragments_compose]
    decide +kernel
  have unnamed : ∀ custom ∈ openPatterns, ¬ NamesDeclaredGroup custom := by decide +kernel
  cases compiled : ofFragments (compose [] openPatterns false) with
  | error failure => simp [compiled, Except.toOption] at runs
  | ok keyPattern =>
    rw [compiled] at runs
    have extracts : keyPattern.extract "=]".toList = [⟨[], 1⟩] := Option.some.inj runs
    exact claim [] openPatterns false keyPattern "=]".toList compiled unnamed ⟨[], 1⟩
      (extracts ▸ List.mem_singleton_self _) rfl

end View

end LocaleLint
