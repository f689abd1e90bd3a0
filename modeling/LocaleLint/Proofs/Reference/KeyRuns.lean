import Mathlib
import LocaleLint.Proofs.Reference.Combination
import LocaleLint.Proofs.Reference.Declared

/-!
# Declared keys as whole words

A search for declared keys that are made of key characters finds the maximal runs of key characters
that are declared keys, and nothing else: the keys are tried from the longest one on, and a key that
is touched by key characters does not count.
-/

namespace LocaleLint.KeyPattern

open Pattern Fragment

/-- Whether a run of key characters starts at a position of a content. -/
def startsRun (content : Text) (position : Nat) : Bool :=
  content[position]?.any isKeyChar && !(position != 0 && content[position - 1]?.any isKeyChar)

/-- The run of key characters from a position of a content on, as long as it goes. -/
def runAt (content : Text) (position : Nat) : FoundKey :=
  ⟨(content.drop position).takeWhile isKeyChar, Text.utf8Length (content.take position)⟩

/-- The maximal runs of key characters in a content, in order. -/
def keyRuns (content : Text) : List FoundKey :=
  ((List.range content.length).filter (startsRun content)).map (runAt content)

theorem length_of_startsRun {content : Text} {position : Nat}
    (starts : startsRun content position = true) : position < content.length := by
  by_contra late
  rw [startsRun, List.getElem?_eq_none (Nat.le_of_not_lt late)] at starts
  cases starts

theorem runAt_key_ne_nil {content : Text} {position : Nat}
    (starts : startsRun content position = true) : (runAt content position).key ≠ [] := by
  have early := length_of_startsRun starts
  have letter : isKeyChar content[position] = true := by
    rw [startsRun, Bool.and_eq_true, List.getElem?_eq_getElem early, Option.any_some] at starts
    exact starts.1
  simp only [runAt, List.drop_eq_getElem_cons early, List.takeWhile_cons, letter, if_true]
  exact List.cons_ne_nil _ _

def declaredPattern (keys : List Text) : Pattern :=
  ⟨(Regex.capture 1 (declaredRegex keys)).program, 1, [(declaredGroup, 1)]⟩

private theorem compile_of_finish {text : Text} {ast : Ast} {captures : Nat} {names : List Text}
    {regex : Regex} {flags' : Flags}
    (finished : (Reading.start text).finish = .ok ⟨⟨[], [ast]⟩, [], false, captures, names, []⟩)
    (shallow : ast.depth ≤ nestingLimit) (meant : ast.toRegex flags = .ok (regex, flags')) :
    Pattern.compile flags text = .ok ⟨regex.program, captures, ast.groupNames⟩ :=
  compile_eq_ok.mpr ⟨_, _, _, finished, rfl, shallow, meant, rfl⟩

theorem source_declared_of_nil {keys : List Text} (none : searchOrder keys = []) :
    (declared keys).source = "(?P<declared>)".toList := by
  rw [Fragment.source, none]
  rfl

theorem compile_declared (keys : List Text) :
    Pattern.compile flags (declared keys).source = .ok (declaredPattern keys) := by
  by_cases filled : searchOrder keys = []
  · rw [source_declared_of_nil filled, declaredPattern, declaredRegex, filled]
    rfl
  have finished := (finish_declared filled [] (Reading.start []) rfl List.not_mem_nil).trans
    (Reading.finish_end rfl)
  rw [List.append_nil] at finished
  have shallow : (declaredAst 1 keys).depth ≤ nestingLimit :=
    (depth_declaredAst_le 1 keys).trans (by decide)
  rw [compile_of_finish finished shallow (toRegex_declaredAst filled 1), groupNames_declaredAst]
  rfl

theorem compile_declared_group {keys : List Text} (filled : searchOrder keys ≠ []) :
    Pattern.compile flags (combine [(declared keys).source]) = .ok (declaredPattern keys) := by
  have finished := (finish_declared_group filled []).trans (Reading.finish_end rfl)
  have shallow : (Ast.group (.plain []) (declaredAst 1 keys)).depth ≤ nestingLimit :=
    (Nat.succ_le_succ (depth_declaredAst_le 1 keys)).trans (by decide)
  have names : (Ast.group (.plain []) (declaredAst 1 keys)).groupNames = [(declaredGroup, 1)] :=
    groupNames_declaredAst 1 keys
  refine (compile_of_finish finished shallow (toRegex_declared_group filled)).trans ?_
  rw [names]
  rfl

theorem ofFragments_declared {keys : List Text} (filled : searchOrder keys ≠ []) :
    ofFragments [.declared keys] = .ok ⟨some (declaredPattern keys), 1⟩ := by
  refine (ofFragments_eq_ok (List.cons_ne_nil _ _)).mpr ⟨fun fragment inside => ?_, _,
    compile_declared_group filled, rfl⟩
  cases List.mem_singleton.mp inside
  exact ⟨_, compile_declared keys⟩

theorem prefix_run {key text : Text} (letters : ∀ c ∈ key, isKeyChar c = true)
    (begins : key <+: text) : key <+: text.takeWhile isKeyChar := by
  obtain ⟨rest, rfl⟩ := begins
  rw [List.takeWhile_append_of_pos letters]
  exact List.prefix_append _ _

/-- A key is not touched by key characters exactly if it is the whole run at its place. -/
theorem isTouched_eq_false_iff {content key : Text} {position : Nat} (filled : key ≠ [])
    (letters : ∀ c ∈ key, isKeyChar c = true) (begins : key <+: content.drop position) :
    isTouched content (position, position + key.length) = false ↔
      startsRun content position = true ∧ (content.drop position).takeWhile isKeyChar = key := by
  obtain ⟨after, split⟩ := begins
  have first : content[position]?.any isKeyChar = true := by
    obtain ⟨c, rest, rfl⟩ := List.exists_cons_of_ne_nil filled
    have at_ : content[position]? = some c := by
      rw [← Nat.add_zero position, ← List.getElem?_drop, ← split]
      rfl
    rw [at_]
    exact letters c List.mem_cons_self
  have last : content[position + key.length]? = after.head? := by
    rw [← List.getElem?_drop, ← split, List.getElem?_append_right (Nat.le_refl _), Nat.sub_self,
      List.head?_eq_getElem?]
  have run : (content.drop position).takeWhile isKeyChar = key ↔
      after.head?.any isKeyChar = false := by
    rw [← split, List.takeWhile_append_of_pos letters, List.append_right_eq_self]
    cases after with
    | nil => simp
    | cons c after => simp [List.takeWhile_cons]
  rw [run, isTouched, startsRun, first, last]
  generalize (position != 0 && content[position - 1]?.any isKeyChar) = before
  cases before <;> simp

/-- A run is a filled part of the content that is made of key characters, with none in front of it
and none behind it. -/
theorem mem_keyRuns_iff {content : Text} {run : FoundKey} :
    run ∈ keyRuns content ↔ ∃ before after, content = before ++ run.key ++ after ∧
      run.offset = Text.utf8Length before ∧ run.key ≠ [] ∧ (∀ c ∈ run.key, isKeyChar c = true) ∧
        before.getLast?.any isKeyChar = false ∧ after.head?.any isKeyChar = false := by
  constructor
  · intro inside
    obtain ⟨position, listed, rfl⟩ := List.mem_map.mp inside
    have starts := (List.mem_filter.mp listed).2
    have early := length_of_startsRun starts
    refine ⟨content.take position, (content.drop position).dropWhile isKeyChar, ?_, rfl,
      runAt_key_ne_nil starts, fun c letter => List.mem_takeWhile_imp letter, ?_, ?_⟩
    · rw [List.append_assoc, runAt, List.takeWhile_append_dropWhile, List.take_append_drop]
    · rw [startsRun, Bool.and_eq_true, Bool.not_eq_true'] at starts
      rw [List.getLast?_take]
      by_cases zero : position = 0
      · rw [if_pos zero]
        rfl
      · rw [if_neg zero, List.getElem?_eq_getElem (by omega), Option.some_or]
        simpa [zero, List.getElem?_eq_getElem (show position - 1 < content.length by omega)]
          using starts.2
    · have stops := List.head?_dropWhile_not isKeyChar (content.drop position)
      cases behind : ((content.drop position).dropWhile isKeyChar).head? with
      | none => rfl
      | some c =>
        rw [behind] at stops
        exact stops
  · rintro ⟨before, after, rfl, offset, filled, letters, front, behind⟩
    have drop : (before ++ run.key ++ after).drop before.length = run.key ++ after := by
      rw [List.append_assoc, List.drop_left]
    have untouched : isTouched (before ++ run.key ++ after)
        (before.length, before.length + run.key.length) = false := by
      have next : (before ++ run.key ++ after)[before.length + run.key.length]? = after.head? := by
        rw [← List.length_append, List.getElem?_append_right (Nat.le_refl _), Nat.sub_self,
          List.head?_eq_getElem?]
      rw [isTouched, next, behind, Bool.or_false]
      by_cases empty : before = []
      · rw [empty]
        rfl
      · have more := List.length_pos_of_ne_nil empty
        rw [List.append_assoc, List.getElem?_append_left (by omega), ← List.getLast?_eq_getElem?,
          front, Bool.and_false]
    obtain ⟨starts, whole⟩ := (isTouched_eq_false_iff filled letters
      (drop ▸ List.prefix_append _ _)).mp untouched
    refine List.mem_map.mpr ⟨before.length, List.mem_filter.mpr
      ⟨List.mem_range.mpr (length_of_startsRun starts), starts⟩, ?_⟩
    rw [runAt, whole, List.append_assoc, List.take_left, ← offset]

/-- Of the declared keys, the run at a place is looked for before all others that stand there. -/
theorem find?_searchOrder {keys : List Text}
    (letters : ∀ key ∈ keys, ∀ c ∈ key, isKeyChar c = true) {text : Text}
    (declared : text.takeWhile isKeyChar ∈ searchOrder keys) :
    (searchOrder keys).find? (fun key => key <+: text) = some (text.takeWhile isKeyChar) := by
  obtain ⟨earlier, later, split, fresh⟩ := List.eq_append_cons_of_mem declared
  have order := pairwise_searchOrder keys
  rw [split, List.pairwise_append] at order
  refine List.find?_eq_some_iff_append.mpr
    ⟨by simpa using List.takeWhile_prefix isKeyChar, earlier, later, split, fun key inside => ?_⟩
  -- A key before it is at least as long, so if it stood there it would be the same.
  have member : key ∈ searchOrder keys := split ▸ List.mem_append_left _ inside
  have longer := order.2.2 key inside _ List.mem_cons_self
  rw [Bool.not_eq_true', decide_eq_false_iff_not]
  intro begins
  obtain ⟨rest, same⟩ := prefix_run (letters key (mem_searchOrder.mp member).1) begins
  rw [← same, Text.utf8Length_append] at longer
  have nothing : rest = [] := Text.eq_nil_of_utf8Length (by omega)
  rw [nothing, List.append_nil] at same
  exact fresh (same ▸ inside)

section
variable {keys : List Text} {content : Text} {m : Match}

/-- A match of declared keys is a key that stands in the content. -/
theorem exists_key_of_match (filled : searchOrder keys ≠ [])
    (inside : m ∈ (declaredPattern keys).matchesIn content) :
    m.start ≤ content.length ∧ ∃ key ∈ searchOrder keys, key <+: content.drop m.start ∧
      m = ⟨m.start, m.start + key.length, [(3, m.start + key.length), (2, m.start)]⟩ := by
  obtain ⟨early, here⟩ := matchAt_start inside
  obtain ⟨key, declared, begins, made⟩ := exists_key_of_matchAt filled here
  rw [Place.rest_advance] at begins
  rw [declaredMatch, Place.position_advance_start early] at made
  exact ⟨early, key, declared, begins, made⟩

/-- The key of a match of declared keys, unless it is touched. -/
theorem keyOf?_declared {start stop : Nat} (content : Text) :
    keyOf? (declaredPattern keys) content ⟨start, stop, [(3, stop), (2, start)]⟩ =
      if isTouched content (start, stop) then none else some (keyAt content (start, stop)) := rfl

variable (filled : searchOrder keys ≠ []) (letters : ∀ key ∈ keys, ∀ c ∈ key, isKeyChar c = true)
include filled letters

/-- A match that is not touched is a run. -/
private theorem run_of_match (inside : m ∈ (declaredPattern keys).matchesIn content)
    (untouched : isTouched content (m.start, m.stop) = false) :
    startsRun content m.start = true ∧ (runAt content m.start).key ∈ keys ∧
      keyAt content (m.start, m.stop) = runAt content m.start := by
  obtain ⟨-, key, declared, begins, made⟩ := exists_key_of_match filled inside
  obtain ⟨member, some⟩ := mem_searchOrder.mp declared
  have stop : m.stop = m.start + key.length := by rw [made]
  rw [stop] at untouched ⊢
  obtain ⟨starts, run⟩ := (isTouched_eq_false_iff some (letters key member) begins).mp untouched
  have whole : (runAt content m.start).key = key := run
  refine ⟨starts, whole.symm ▸ member, ?_⟩
  rw [keyAt, runAt, Nat.add_sub_cancel_left, run]
  exact congrArg₂ FoundKey.mk (List.prefix_iff_eq_take.mp begins).symm rfl

/-- A character inside a match is a key character. -/
private theorem isKeyChar_of_match (inside : m ∈ (declaredPattern keys).matchesIn content)
    (offset : Nat) (before : m.start + offset < m.stop) :
    content[m.start + offset]?.any isKeyChar = true := by
  obtain ⟨-, key, declared, ⟨rest, split⟩, made⟩ := exists_key_of_match filled inside
  have stop : m.stop = m.start + key.length := by rw [made]
  have small : offset < key.length := by omega
  rw [← List.getElem?_drop, ← split, List.getElem?_append_left small,
    List.getElem?_eq_getElem small]
  exact letters key (mem_searchOrder.mp declared).1 _ (List.getElem_mem small)

/-- A run that is a declared key is a match, as no other match reaches into it. -/
private theorem exists_match_of_run {position : Nat} (starts : startsRun content position = true)
    (member : (runAt content position).key ∈ keys) :
    ∃ m ∈ (declaredPattern keys).matchesIn content,
      isTouched content (m.start, m.stop) = false ∧ m.start = position := by
  have early := length_of_startsRun starts
  let run := (content.drop position).takeWhile isKeyChar
  have some : run ≠ [] := runAt_key_ne_nil starts
  rw [startsRun, Bool.and_eq_true, Bool.not_eq_true'] at starts
  have declared : run ∈ searchOrder keys := mem_searchOrder.mpr ⟨member, some⟩
  let found : Match :=
    ⟨position, position + run.length, [(3, position + run.length), (2, position)]⟩
  have here : matchAt (declaredPattern keys).program ((Place.start content).advance position) =
      .some found := by
    refine (matchAt_declared filled 1 _).trans ?_
    rw [Place.rest_advance, show (Place.start content).rest = content from rfl,
      find?_searchOrder letters declared, Option.map_some, declaredMatch,
      Place.position_advance_start (Nat.le_of_lt early)]
  have untouched : isTouched content (position, position + run.length) = false := by
    refine (isTouched_eq_false_iff some (letters run member)
      (List.takeWhile_prefix isKeyChar)).mpr ⟨?_, rfl⟩
    rw [startsRun, starts.1, starts.2]
    rfl
  rcases matchesIn_covers (Nat.le_of_lt early) here with
    inside | ⟨other, inside, first, last, reach⟩
  · exact ⟨found, inside, untouched, rfl⟩
  · have more := List.length_pos_of_ne_nil some
    have into : position < other.stop := by
      rcases reach with empty | into
      · change position = position + run.length at empty
        omega
      · exact into
    change other.start < position at first
    have touched := isKeyChar_of_match filled letters inside (position - 1 - other.start) (by omega)
    rw [show other.start + (position - 1 - other.start) = position - 1 by omega] at touched
    rw [touched, Bool.and_true, bne_eq_false_iff_eq] at starts
    omega

/-- Where the matches start that are not touched. -/
private def starts (keys : List Text) (content : Text) : List Nat :=
  (((declaredPattern keys).matchesIn content).filter fun m =>
    !isTouched content (m.start, m.stop)).map (·.start)

private theorem extract_eq_map_starts (content : Text) :
    extract ⟨some (declaredPattern keys), 1⟩ content =
      (starts keys content).map (runAt content) := by
  rw [starts, List.map_map, ← List.filterMap_eq_map, List.filterMap_filter]
  apply List.filterMap_congr
  intro m inside
  obtain ⟨-, key, -, -, made⟩ := exists_key_of_match filled inside
  have run := run_of_match filled letters inside
  rw [made] at run ⊢
  rw [keyOf?_declared]
  dsimp only at run ⊢
  cases touched : isTouched content (m.start, m.start + key.length) with
  | true => rfl
  | false =>
    rw [(run touched).2.2]
    rfl

omit letters in
private theorem pairwise_starts (content : Text) : (starts keys content).Pairwise (· < ·) := by
  have apart := pairwise_matchesFrom (declaredPattern keys).program (content.length + 2)
    (.start content) none
  have sooner : ((declaredPattern keys).matchesIn content).Pairwise fun m later =>
      m.start < later.start := by
    refine List.Pairwise.imp_of_mem (fun {m later} inside _ before => ?_) apart
    obtain ⟨-, key, declared, -, made⟩ := exists_key_of_match filled inside
    have more := List.length_pos_of_ne_nil (mem_searchOrder.mp declared).2
    have stop : m.stop = m.start + key.length := by rw [made]
    omega
  exact List.pairwise_map.mpr (sooner.sublist List.filter_sublist)

private theorem mem_starts_iff {position : Nat} : position ∈ starts keys content ↔
    startsRun content position = true ∧ (runAt content position).key ∈ keys := by
  constructor
  · intro inside
    obtain ⟨m, listed, rfl⟩ := List.mem_map.mp inside
    obtain ⟨inside, untouched⟩ := List.mem_filter.mp listed
    obtain ⟨begins, member, -⟩ := run_of_match filled letters inside (by simpa using untouched)
    exact ⟨begins, member⟩
  · rintro ⟨begins, member⟩
    obtain ⟨m, inside, untouched, rfl⟩ := exists_match_of_run filled letters begins member
    exact List.mem_map_of_mem (List.mem_filter.mpr ⟨inside, by simpa using untouched⟩)

end

/-- A search for declared keys of key characters finds exactly the maximal runs of key characters
that are declared keys, in order and each where it starts. -/
theorem extract_declared {keys : List Text} (some : keys ≠ [])
    (valid : ∀ key ∈ keys, key ≠ [] ∧ ∀ c ∈ key, isKeyChar c = true) :
    ∃ keyPattern, ofFragments [.declared keys] = .ok keyPattern ∧
      ∀ content, keyPattern.extract content =
        (keyRuns content).filter fun run => run.key ∈ keys := by
  have filled : searchOrder keys ≠ [] := by
    obtain ⟨key, inside⟩ := List.exists_mem_of_ne_nil keys some
    exact List.ne_nil_of_mem (mem_searchOrder.mpr ⟨inside, (valid key inside).1⟩)
  have letters : ∀ key ∈ keys, ∀ c ∈ key, isKeyChar c = true := fun key inside =>
    (valid key inside).2
  refine ⟨_, ofFragments_declared filled, fun content => ?_⟩
  have same : starts keys content = (List.range content.length).filter fun position =>
      startsRun content position && decide ((runAt content position).key ∈ keys) := by
    refine List.Pairwise.eq_of_mem_iff (pairwise_starts filled content)
      (List.pairwise_lt_range.filter _) fun position => ?_
    rw [mem_starts_iff filled letters, List.mem_filter, Bool.and_eq_true, decide_eq_true_eq,
      List.mem_range]
    refine ⟨fun run => ⟨?_, run⟩, And.right⟩
    exact length_of_startsRun run.1
  rw [extract_eq_map_starts filled letters, same, keyRuns, List.filter_map, List.filter_filter]
  congr 2
  funext position
  exact Bool.and_comm _ _

/-- Two keys of which one begins with the other. -/
def nestedKeys : List Text := ["A.B".toList, "A.B.C".toList]

set_option maxRecDepth 100000 in
theorem extract_declared_nested :
    nestedKeys ≠ [] ∧ (∀ key ∈ nestedKeys, key ≠ [] ∧ ∀ c ∈ key, isKeyChar c = true) ∧
      ∃ keyPattern, ofFragments [.declared nestedKeys] = .ok keyPattern ∧
        keyPattern.extract "A.B.C, A.B or xA.B".toList =
          [⟨"A.B.C".toList, 0⟩, ⟨"A.B".toList, 7⟩] := by
  have some : nestedKeys ≠ [] := List.cons_ne_nil _ _
  have valid : ∀ key ∈ nestedKeys, key ≠ [] ∧ ∀ c ∈ key, isKeyChar c = true := by
    intro key inside
    have letters : nestedKeys.all fun key => key.all isKeyChar := by decide +kernel
    refine ⟨?_, List.all_eq_true.mp (List.all_eq_true.mp letters key inside)⟩
    rcases List.mem_pair.mp inside with rfl | rfl
    · exact List.cons_ne_nil _ _
    · exact List.cons_ne_nil _ _
  obtain ⟨keyPattern, compiled, extracts⟩ := extract_declared some valid
  refine ⟨some, valid, keyPattern, compiled, ?_⟩
  rw [extracts]
  decide +kernel

end LocaleLint.KeyPattern
