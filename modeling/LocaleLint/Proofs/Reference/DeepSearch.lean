import Mathlib
import LocaleLint.Proofs.Pattern.Preference
import LocaleLint.Proofs.Reference.Combination
import LocaleLint.Proofs.Reference.Declared

/-!
# Deep search

A deep search prefers declared keys to the other forms of references. It finds each key of those
forms, except where a declared key takes text from one of their matches.
-/

namespace LocaleLint.KeyPattern

open Pattern Fragment

/-- Declared keys in front of other forms. -/
def declaredFront (keys : List Text) : Front :=
  ⟨.group (.plain []) (declaredAst 1 keys), 1, [declaredGroup]⟩

/-- With declared keys in front, other forms are read behind them. -/
theorem finish_combine_declared {keys : List Text} (filled : searchOrder keys ≠ [])
    {sources : List Text} (some : sources ≠ []) :
    (Reading.start (combine ((declared keys).source :: sources))).finish =
      ((Reading.start (combine sources)).behind (declaredFront keys)).finish := by
  have bar : skip false ('|' :: combine sources) = '|' :: combine sources := rfl
  rw [combine_cons _ some, finish_declared_group filled, Reading.finish_step _ bar]
  rfl

theorem searchOrder_eq_nil_iff {keys : List Text} :
    searchOrder keys = [] ↔ (declared keys).isEmpty = true := by
  rw [List.eq_nil_iff_forall_not_mem, Fragment.isEmpty, List.all_eq_true]
  refine forall_congr' fun key => ?_
  rw [mem_searchOrder, List.isEmpty_iff]
  tauto

/-- A deep search looks for what a search looks for that is not deep, and before that for declared
keys if there are any. -/
theorem compose_deep (keys customPatterns : List Text) :
    compose keys customPatterns true =
      (if searchOrder keys = [] then [] else [declared keys]) ++
        compose keys customPatterns false := by
  have split : compose keys customPatterns true = [declared keys].filter (!·.isEmpty) ++
      compose keys customPatterns false := by
    simp only [compose, if_true, Bool.false_eq_true, if_false, List.nil_append, List.append_assoc,
      List.filter_append]
  rw [split]
  congr 1
  simp only [searchOrder_eq_nil_iff, List.filter_singleton]
  cases (declared keys).isEmpty <;> rfl

theorem compose_shallow_ne_nil (keys customPatterns : List Text) :
    compose keys customPatterns false ≠ [] :=
  List.cons_ne_nil (builtin .directiveContent) _

/-- The positions of the key of a match. -/
def keyRange? (pattern : Pattern) (content : Text) (m : Match) : Option (Nat × Nat) :=
  match pattern.namedGroup? declaredGroup m with
  | some range => if isTouched content range then none else some range
  | none => firstFilled?
      ((List.range pattern.groupCount).map (fun i => m.group? (i + 1)) ++ [some (m.start, m.stop)])

theorem keyOf?_eq_map (pattern : Pattern) (content : Text) (m : Match) :
    keyOf? pattern content m = (keyRange? pattern content m).map (keyAt content) := by
  rw [keyOf?, keyRange?]
  cases pattern.namedGroup? declaredGroup m with
  | none => rfl
  | some range =>
    dsimp only
    split <;> rfl

/-- A range of positions is a filled part of a match. -/
def IsPart (m : Match) (range : Nat × Nat) : Prop :=
  m.start ≤ range.1 ∧ range.1 < range.2 ∧ range.2 ≤ m.stop

section
variable {text : Text} {pattern : Pattern} (compiled : Pattern.compile flags text = .ok pattern)
  (fresh : ∀ name ∈ pattern.groupNames, name.1 ∉ [declaredGroup])
  {place : Place} {m : Match} (found : matchAt pattern.program place = some m)

include fresh in
theorem namedGroup?_eq_none (m : Match) : pattern.namedGroup? declaredGroup m = none := by
  have missing : pattern.groupNames.lookup declaredGroup = none := by
    rw [List.lookup_eq_none_iff]
    intro name inside
    rw [bne_iff_ne]
    exact fun same => fresh name inside (List.mem_singleton.mpr same.symm)
  rw [Pattern.namedGroup?, missing, Option.bind_none]

include compiled found in
/-- The key of a match without a declared key is a filled part of it. -/
theorem isPart_of_undeclared {content : Text} {range : Nat × Nat}
    (undeclared : pattern.namedGroup? declaredGroup m = none)
    (ranged : keyRange? pattern content m = some range) : IsPart m range := by
  rw [keyRange?, undeclared] at ranged
  have apart : range.1 ≠ range.2 := by simpa using List.find?_some ranged
  have forward := (matchAt_bounds found).2.1
  obtain ⟨_, inside, rfl⟩ := List.mem_filterMap.mp (List.mem_of_find?_eq_some ranged)
  rcases List.mem_append.mp inside with group | whole
  · obtain ⟨i, -, group⟩ := List.mem_map.mp group
    obtain ⟨first, ordered, last⟩ := group?_compile compiled found group
    exact ⟨first, by omega, last⟩
  · cases List.mem_singleton.mp whole
    exact ⟨Nat.le_refl _, by omega, Nat.le_refl _⟩

include compiled fresh found

/-- A match with a key is not empty. -/
theorem lt_of_keyOf? {content : Text} {key : FoundKey}
    (yields : keyOf? pattern content m = some key) : m.start < m.stop := by
  rw [keyOf?_eq_map] at yields
  obtain ⟨range, ranged, -⟩ := Option.map_eq_some_iff.mp yields
  obtain ⟨first, filled, last⟩ :=
    isPart_of_undeclared compiled found (namedGroup?_eq_none fresh m) ranged
  omega

/-- Behind the group of declared keys a match has its key in the same place. -/
theorem keyRange?_behind {both : Pattern} (count : both.groupCount = pattern.groupCount + 1)
    (names : both.groupNames = (declaredGroup, 1) ::
      pattern.groupNames.map fun name => (name.1, name.2 + 1)) (content : Text) :
    keyRange? both content (m.shift 1) = keyRange? pattern content m := by
  have outside : (m.shift 1).group? 1 = none := by
    refine group?_eq_none fun mark inside => ?_
    obtain ⟨⟨slot, position⟩, marked, rfl⟩ := List.mem_map.mp inside
    have bounds := (marks_compile compiled found _ marked).1
    dsimp only at bounds ⊢
    omega
  have named : both.namedGroup? declaredGroup (m.shift 1) = none := by
    rw [Pattern.namedGroup?, names, List.lookup_cons_self]
    exact outside
  have groups : ((List.range both.groupCount).map fun i => (m.shift 1).group? (i + 1)) =
      none :: (List.range pattern.groupCount).map fun i => m.group? (i + 1) := by
    rw [count, List.range_succ_eq_map, List.map_cons, List.map_map, outside]
    congr 2
    funext i
    exact group?_shift m 1 (i + 1)
  rw [keyRange?, keyRange?, named, namedGroup?_eq_none fresh]
  dsimp only
  rw [groups]
  rfl

end

/-- Forms that compile behind declared keys compile without them. -/
theorem exists_shallow {declaredKeys customPatterns : List Text} {deep : KeyPattern}
    (filled : searchOrder declaredKeys ≠ [])
    (compiled' : ofFragments (compose declaredKeys customPatterns true) = .ok deep) :
    ∃ shallow, ofFragments (compose declaredKeys customPatterns false) = .ok shallow := by
  rw [compose_deep, if_neg filled, List.singleton_append] at compiled'
  obtain ⟨alone, both, whole', -⟩ := (ofFragments_eq_ok (List.cons_ne_nil _ _)).mp compiled'
  have sources : (compose declaredKeys customPatterns false).map Fragment.source ≠ [] := by
    simpa using compose_shallow_ne_nil declaredKeys customPatterns
  obtain ⟨pattern, whole⟩ := exists_compile_of_behind (declaredFront declaredKeys)
    (toRegex_declared_group filled) (finish_combine_declared filled sources) whole'
  exact ⟨_, (ofFragments_eq_ok (compose_shallow_ne_nil _ _)).mpr
    ⟨(List.forall_mem_cons.mp alone).2, pattern, whole, rfl⟩⟩

/-- The pattern of a deep search prefers declared keys to the pattern of a search that is not. -/
theorem exists_prefers {declaredKeys customPatterns : List Text} {shallow deep : KeyPattern}
    (filled : searchOrder declaredKeys ≠ [])
    (compiled : ofFragments (compose declaredKeys customPatterns false) = .ok shallow)
    (compiled' : ofFragments (compose declaredKeys customPatterns true) = .ok deep) :
    ∃ text pattern both, Pattern.compile flags text = .ok pattern ∧
      shallow.pattern = some pattern ∧ deep.pattern = some both ∧
      Prefers (.capture 1 (declaredRegex declaredKeys)) 1 pattern both ∧
      both.groupCount = pattern.groupCount + 1 ∧
      both.groupNames = (declaredGroup, 1) ::
        pattern.groupNames.map (fun name => (name.1, name.2 + 1)) ∧
      ∀ name ∈ pattern.groupNames, name.1 ∉ [declaredGroup] := by
  rw [compose_deep, if_neg filled, List.singleton_append] at compiled'
  obtain ⟨-, pattern, whole, rfl⟩ := (ofFragments_eq_ok (compose_shallow_ne_nil _ _)).mp compiled
  obtain ⟨-, both, whole', rfl⟩ := (ofFragments_eq_ok (List.cons_ne_nil _ _)).mp compiled'
  have sources : (compose declaredKeys customPatterns false).map Fragment.source ≠ [] := by
    simpa using compose_shallow_ne_nil declaredKeys customPatterns
  obtain ⟨prefers, count, names, fresh⟩ := compile_behind (declaredFront declaredKeys)
    (toRegex_declared_group filled) (finish_combine_declared filled sources) whole whole'
  have front : (declaredFront declaredKeys).branch.groupNames = [(declaredGroup, 1)] :=
    groupNames_declaredAst 1 declaredKeys
  rw [front, List.singleton_append] at names
  exact ⟨_, pattern, both, whole, rfl, rfl, prefers, count, names, fresh⟩

/-- Whether a match is one of some keys, in the group of declared keys. -/
def TakesKey (keyPattern : KeyPattern) (keys : List Text) (content : Text) (m : Match) : Prop :=
  (∃ pattern, keyPattern.pattern = some pattern ∧
    pattern.namedGroup? declaredGroup m = some (m.start, m.stop)) ∧
  ∃ key ∈ keys, key ≠ [] ∧ key <+: content.drop m.start ∧ m.stop = m.start + key.length

/-- A search that is deep finds what a search finds that is not, except where a declared key
overlaps a match of that from which matches of the two reach without a gap. -/
theorem mem_extract_deep_or_overlapped {declaredKeys customPatterns : List Text}
    {shallow deep : KeyPattern}
    (compiled : ofFragments (compose declaredKeys customPatterns false) = .ok shallow)
    (compiled' : ofFragments (compose declaredKeys customPatterns true) = .ok deep)
    (content : Text) {m : Match} (inside : m ∈ shallow.matchesIn content) {found : FoundKey}
    (yields : shallow.keyIn? content m = some found) :
    found ∈ deep.extract content ∨
      ∃ taken ∈ deep.matchesIn content, deep.TakesKey declaredKeys content taken ∧
        ∃ lost ∈ shallow.matchesIn content, lost.start < taken.stop ∧ taken.start < lost.stop ∧
          lost.start ≤ m.start ∧
          Unbroken (shallow.matchesIn content ++ deep.matchesIn content) lost.start m.start := by
  by_cases none : searchOrder declaredKeys = []
  · rw [compose_deep, if_pos none, List.nil_append, compiled] at compiled'
    cases compiled'
    rw [extract_eq]
    exact .inl (List.mem_filterMap.mpr ⟨m, inside, yields⟩)
  · obtain ⟨text, pattern, both, whole, has, has', prefers, count, names, fresh⟩ :=
      exists_prefers none compiled compiled'
    rw [extract_eq]
    simp only [matchesIn, keyIn?, has, has', Option.elim_some, Option.bind_some] at inside yields ⊢
    have here := (matchAt_start inside).2
    have solid (place : Place) (m : Match) (matched : matchAt
        (Regex.capture 1 (declaredRegex declaredKeys)).program place = some m) :
        m.start < m.stop := by
      obtain ⟨key, declared, -, rfl⟩ := exists_key_of_matchAt none matched
      have more := List.length_pos_of_ne_nil (mem_searchOrder.mp declared).2
      exact Nat.lt_add_of_pos_right more
    rcases mem_matchesIn_or_overlapped prefers solid inside
        (lt_of_keyOf? whole fresh here yields) with kept | ⟨taken, member, at_, lost, overlaps⟩
    · have same : deep.keyIn? content (m.shift 1) = some found := by
        rw [keyIn?, has', Option.bind_some, keyOf?_eq_map,
          keyRange?_behind whole fresh here count names content, ← keyOf?_eq_map]
        exact yields
      exact .inl (List.mem_filterMap.mpr ⟨m.shift 1, kept, same⟩)
    · obtain ⟨key, declared, begins, made⟩ := exists_key_of_matchAt none at_
      obtain ⟨listed, some⟩ := mem_searchOrder.mp declared
      rw [Place.rest_advance] at begins
      have stop : taken.stop = taken.start + key.length := by rw [made]; rfl
      have group : both.namedGroup? declaredGroup taken = .some (taken.start, taken.stop) := by
        rw [Pattern.namedGroup?, names, List.lookup_cons_self, made]
        exact group?_declaredMatch 1 _ key
      exact .inr ⟨taken, member, ⟨⟨both, has', group⟩, key, listed, some, begins, stop⟩, lost,
        overlaps⟩

/-- A key that is also the name of an attribute. -/
def attributeKey : List Text := ["translate".toList]

/-- An attribute that has a declared key for its name. -/
def attributed : Text := "<p translate=\"HOME\">".toList

/-- The pattern of a search for a key that is the name of an attribute. -/
def searchFor (deep : Bool) : KeyPattern :=
  (ofFragments (compose attributeKey [] deep)).toOption.getD ⟨none, 0⟩

/-- The match of the attribute in a search that is not deep. -/
private def attributeMatch : Match := ⟨3, 19, [(5, 18), (4, 14)]⟩

set_option maxRecDepth 100000 in
theorem searchFor_eq (deep : Bool) :
    ofFragments (compose attributeKey [] deep) = .ok (searchFor deep) := by
  have compiles : (ofFragments (compose attributeKey [] deep)).toOption.isSome := by
    cases deep <;> decide +kernel
  unfold searchFor
  cases compiled : ofFragments (compose attributeKey [] deep) with
  | error failure =>
    rw [compiled] at compiles
    cases compiles
  | ok keyPattern => rfl

set_option maxRecDepth 100000 in
private theorem attributeMatch_found :
    attributeMatch ∈ (searchFor false).matchesIn attributed ∧
      (searchFor false).keyIn? attributed attributeMatch = some ⟨"HOME".toList, 14⟩ := by
  decide +kernel

theorem mem_extract_deep_or_overlapped_attributed :
    ∃ shallow deep m, ofFragments (compose attributeKey [] false) = .ok shallow ∧
      ofFragments (compose attributeKey [] true) = .ok deep ∧
      m ∈ shallow.matchesIn attributed ∧
      shallow.keyIn? attributed m = some ⟨"HOME".toList, 14⟩ ∧
      (⟨"HOME".toList, 14⟩ ∈ deep.extract attributed ∨
        ∃ taken ∈ deep.matchesIn attributed, deep.TakesKey attributeKey attributed taken ∧
          ∃ lost ∈ shallow.matchesIn attributed,
            lost.start < taken.stop ∧ taken.start < lost.stop ∧ lost.start ≤ m.start ∧
            Unbroken (shallow.matchesIn attributed ++ deep.matchesIn attributed) lost.start
              m.start) := by
  obtain ⟨inside, yields⟩ := attributeMatch_found
  exact ⟨_, _, attributeMatch, searchFor_eq false, searchFor_eq true, inside, yields,
    mem_extract_deep_or_overlapped (searchFor_eq false) (searchFor_eq true) attributed inside
      yields⟩

set_option maxRecDepth 100000 in
/-- A declared key hides the attribute that it names. -/
theorem extract_deep_loses_key :
    ¬ ∀ (declaredKeys customPatterns : List Text) (shallow deep : KeyPattern) (content : Text),
      ofFragments (compose declaredKeys customPatterns false) = .ok shallow →
      ofFragments (compose declaredKeys customPatterns true) = .ok deep →
      ∀ found ∈ shallow.extract content,
        found.key ∈ (deep.extract content).map FoundKey.key := by
  intro claim
  obtain ⟨inside, yields⟩ := attributeMatch_found
  have kept := claim attributeKey [] _ _ attributed (searchFor_eq false) (searchFor_eq true)
    ⟨"HOME".toList, 14⟩ (by
      rw [extract_eq]
      exact List.mem_filterMap.mpr ⟨attributeMatch, inside, yields⟩)
  have lost : "HOME".toList ∉ ((searchFor true).extract attributed).map FoundKey.key := by
    decide +kernel
  exact lost kept

end LocaleLint.KeyPattern
