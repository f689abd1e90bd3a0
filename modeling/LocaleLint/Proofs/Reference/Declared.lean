import Mathlib
import LocaleLint.Proofs.Pattern.Capture
import LocaleLint.Proofs.Pattern.Choice
import LocaleLint.Proofs.Pattern.Literal
import LocaleLint.Proofs.Pattern.Scan
import LocaleLint.Proofs.Text.Order
import LocaleLint.Reference.Extraction

/-!
# Declared keys as a pattern

The pattern of declared keys is read as a group with a name around the keys as they are, the longest
first. It matches where one of them stands.
-/

namespace LocaleLint

open Pattern

theorem Text.eq_nil_of_utf8Length {s : Text} (none : s.utf8Length = 0) : s = [] := by
  cases s with
  | nil => rfl
  | cons c s =>
    have size := c.utf8Size_pos
    rw [Text.utf8Length] at none
    omega

namespace Fragment

theorem dropRepeats_sublist (keys : List Text) : (dropRepeats keys).Sublist keys := by
  fun_induction dropRepeats keys with
  | case1 b rest ih => exact ih.cons b
  | case2 a b rest other ih => exact ih.cons_cons a
  | case3 keys => exact List.Sublist.refl keys

theorem mem_dropRepeats {keys : List Text} {key : Text} : key ∈ dropRepeats keys ↔ key ∈ keys := by
  fun_induction dropRepeats keys with
  | case1 b rest ih =>
    rw [ih]
    exact ⟨List.mem_cons_of_mem b, fun inside =>
      (List.mem_cons.mp inside).elim (fun same => same ▸ List.mem_cons_self) id⟩
  | case2 a b rest other ih => rw [List.mem_cons, ih, ← List.mem_cons]
  | case3 keys => exact Iff.rfl

theorem mem_searchOrder {keys : List Text} {key : Text} :
    key ∈ searchOrder keys ↔ key ∈ keys ∧ key ≠ [] := by
  rw [searchOrder, mem_dropRepeats, List.mem_mergeSort, List.mem_filter, decide_eq_true_eq]

theorem longerFirst_iff {a b : Text} : longerFirst a b = true ↔
    b.utf8Length < a.utf8Length ∨ a.utf8Length = b.utf8Length ∧ Text.le a b = true := by
  unfold longerFirst
  split
  · rename_i same
    rw [same, and_iff_right rfl, or_iff_right (Nat.lt_irrefl _)]
  · rename_i other
    rw [decide_eq_true_eq, or_iff_left fun both => other both.1]

/-- No key is looked for before a longer one. -/
theorem pairwise_searchOrder (keys : List Text) :
    (searchOrder keys).Pairwise fun a b => b.utf8Length ≤ a.utf8Length := by
  have trans (a b c : Text) (first : longerFirst a b = true) (second : longerFirst b c = true) :
      longerFirst a c = true := by
    rw [longerFirst_iff] at first second ⊢
    rcases first with longer | ⟨same, le⟩
    · rcases second with longer' | ⟨same', -⟩
      · exact .inl (longer'.trans longer)
      · exact .inl (same' ▸ longer)
    · exact second.imp (same ▸ ·) fun ⟨same', le'⟩ =>
        ⟨same.trans same', Text.isTotalOrder_le.trans le le'⟩
  have total (a b : Text) : (longerFirst a b || longerFirst b a) = true := by
    rw [Bool.or_eq_true, longerFirst_iff, longerFirst_iff]
    rcases lt_trichotomy a.utf8Length b.utf8Length with less | same | greater
    · exact .inr (.inl less)
    · exact (Text.isTotalOrder_le.total a b).imp (fun le => .inr ⟨same, le⟩)
        fun le => .inr ⟨same.symm, le⟩
    · exact .inl (.inl greater)
  refine List.Pairwise.sublist (dropRepeats_sublist _)
    ((List.pairwise_mergeSort trans total _).imp fun {a b} before => ?_)
  rcases longerFirst_iff.mp before with longer | ⟨same, -⟩
  · exact Nat.le_of_lt longer
  · exact Nat.le_of_eq same.symm

end Fragment

namespace Fragment

/-- The parts of a pattern that are the characters of a text. -/
def literals (text : Text) : List Ast := text.map fun c => .literal ⟨c, false⟩

/-- A text as a pattern. -/
def literalAst (text : Text) : Ast := sequenceOf (literals text).reverse

theorem readEscape_special (verbose : Bool) {c : Char} (special : isSpecial c = true)
    (rest : Text) : readEscape verbose (c :: rest) = .ok (.verbatim c, rest) := by
  have facts : "\\.+*?()|[]\x7b\x7d^$#&-~".toList.all fun c => !c.isDigit &&
      (c ≠ 'x' ∧ c ≠ 'u' ∧ c ≠ 'U' ∧ c ≠ 'p' ∧ c ≠ 'P' ∧ c ≠ 'b') &&
        (letterEscape? c).isNone := by decide
  have fact := List.all_eq_true.mp facts c (List.contains_iff_mem.mp special)
  simp only [Bool.and_eq_true, Bool.not_eq_true', decide_eq_true_eq] at fact
  obtain ⟨⟨digit, x, u, U, p, P, b⟩, letter⟩ := fact
  have significant : isMeta c = true := special
  rw [readEscape, if_neg (by simp [digit]), if_neg x, if_neg u, if_neg U, if_neg p, if_neg P,
    if_neg b, Option.isNone_iff_eq_none.mp letter]
  dsimp only
  rw [significant, Bool.true_or, if_pos rfl]

theorem step_plain {c : Char} (plain : isSpecial c = false) (reading : Reading) (rest : Text) :
    reading.step c rest = .ok (reading.push (.literal ⟨c, false⟩) rest) := by
  unfold Reading.step
  split
  iterate 12 exact absurd plain (by decide)
  rfl

/-- The escaped characters of a text are read as its characters. -/
theorem finish_escape (text behind : Text) (reading : Reading) (bare : reading.verbose = false) :
    Reading.finish { reading with rest := escape text ++ behind } =
      Reading.finish { reading with
        level := ⟨reading.level.branches, (literals text).reverse ++ reading.level.parts⟩
        rest := behind } := by
  induction text generalizing reading with
  | nil => rfl
  | cons c text ih =>
    have onward : Reading.finish (reading.push (.literal ⟨c, false⟩) (escape text ++ behind)) =
        Reading.finish { reading with
          level := ⟨reading.level.branches, (literals (c :: text)).reverse ++ reading.level.parts⟩
          rest := behind } := by
      refine (ih (reading.push (.literal ⟨c, false⟩) []) bare).trans ?_
      simp [Reading.push, Level.push, literals]
    rw [← onward]
    by_cases special : isSpecial c = true
    · have escaped : escape (c :: text) ++ behind = '\\' :: c :: (escape text ++ behind) := by
        simp [escape, special]
      have first : skip reading.verbose (escape (c :: text) ++ behind) =
          '\\' :: c :: (escape text ++ behind) := by rw [bare, escaped]; rfl
      rw [Reading.finish_step _ first, Reading.step, readEscape_special _ special]
      rfl
    · rw [Bool.not_eq_true] at special
      have escaped : escape (c :: text) ++ behind = c :: (escape text ++ behind) := by
        simp [escape, special]
      have first : skip reading.verbose (escape (c :: text) ++ behind) =
          c :: (escape text ++ behind) := by rw [bare, escaped]; rfl
      rw [Reading.finish_step _ first, step_plain special]
      rfl

/-- Escaped texts with bars between them are read as a choice between the texts. -/
theorem finish_alternatives {texts : List Text} (filled : texts ≠ []) (branches : List Ast)
    (behind : Text) (reading : Reading) (bare : reading.verbose = false) :
    ∃ level : Level, level.close = Reading.choice (branches.reverse ++ texts.map literalAst) ∧
      Reading.finish { reading with
        level := ⟨branches, []⟩
        rest := Text.joinWith ['|'] (texts.map escape) ++ behind } =
      Reading.finish { reading with level, rest := behind } := by
  induction texts generalizing branches with
  | nil => exact absurd rfl filled
  | cons text texts ih =>
    cases texts with
    | nil =>
      refine ⟨⟨branches, (literals text).reverse⟩, ?_, ?_⟩
      · rw [Reading.close_eq, List.reverse_cons]
        rfl
      · refine (finish_escape text behind { reading with level := ⟨branches, []⟩ } bare).trans ?_
        rw [List.append_nil]
    | cons next texts =>
      obtain ⟨level, close, finish⟩ := ih (List.cons_ne_nil _ _) (literalAst text :: branches)
      refine ⟨level, ?_, finish ▸ ?_⟩
      · rw [close, List.reverse_cons, List.append_assoc]
        rfl
      · have joined : Text.joinWith ['|'] ((text :: next :: texts).map escape) ++ behind =
            escape text ++ '|' :: (Text.joinWith ['|'] ((next :: texts).map escape) ++ behind) := by
          simp [Text.joinWith]
        rw [joined]
        refine (finish_escape text _ { reading with level := ⟨branches, []⟩ } bare).trans ?_
        have bar : skip reading.verbose
            ('|' :: (Text.joinWith ['|'] ((next :: texts).map escape) ++ behind)) =
              '|' :: (Text.joinWith ['|'] ((next :: texts).map escape) ++ behind) := by
          rw [bare]
          rfl
        rw [List.append_nil, Reading.finish_step _ bar]
        rfl

/-- Declared keys as a pattern: a group with a number and a name around a choice between them. -/
def declaredAst (index : Nat) (keys : List Text) : Ast :=
  .group (.capture index (some declaredGroup))
    (Reading.choice ((searchOrder keys).map literalAst))

theorem readOpener_declared {names : List Text} (fresh : declaredGroup ∉ names) (rest : Text) :
    readOpener false names ("?P<".toList ++ declaredGroup ++ '>' :: rest) =
      .ok (.capture (some declaredGroup), rest) := by
  have name : readGroupName true (declaredGroup ++ '>' :: rest) = .ok (declaredGroup, rest) := by
    rfl
  have opened : readOpener false names ("?P<".toList ++ declaredGroup ++ '>' :: rest) =
      readName names (declaredGroup ++ '>' :: rest) := rfl
  rw [opened, readName, name]
  have filled : declaredGroup.isEmpty = false := rfl
  simp [bind, Except.bind, pure, Except.pure, filled, fresh]

/-- The pattern of declared keys is read as a part. -/
theorem finish_declared {keys : List Text} (filled : searchOrder keys ≠ []) (behind : Text)
    (reading : Reading) (bare : reading.verbose = false)
    (fresh : declaredGroup ∉ reading.names) :
    Reading.finish { reading with rest := (declared keys).source ++ behind } =
      Reading.finish { reading with
        level := reading.level.push (declaredAst (reading.captures + 1) keys)
        captures := reading.captures + 1
        names := reading.names ++ [declaredGroup]
        rest := behind } := by
  obtain ⟨level, groups, verbose, captures, names, rest⟩ := reading
  cases bare
  let opener : OpenGroup := ⟨.capture (captures + 1) (some declaredGroup), level, false⟩
  let body : Text := Text.joinWith ['|'] ((searchOrder keys).map escape) ++ ')' :: behind
  have source : (declared keys).source ++ behind =
      '(' :: ("?P<".toList ++ declaredGroup ++ '>' :: body) := by
    simp [Fragment.source, body]
  have opened : Reading.step ⟨level, groups, false, captures, names,
      (declared keys).source ++ behind⟩ '(' ("?P<".toList ++ declaredGroup ++ '>' :: body) =
        .ok ⟨⟨[], []⟩, opener :: groups, false, captures + 1, names ++ [declaredGroup], body⟩ := by
    rw [Reading.step, Reading.openGroup, readOpener_declared fresh]
    rfl
  obtain ⟨inside, close, alternatives⟩ := finish_alternatives filled [] (')' :: behind)
    ⟨⟨[], []⟩, opener :: groups, false, captures + 1, names ++ [declaredGroup], []⟩ rfl
  dsimp only at alternatives ⊢
  rw [Reading.finish_step _ (by rw [source]; rfl), opened]
  refine alternatives.trans ?_
  have parenthesis : skip false (')' :: behind) = ')' :: behind := rfl
  rw [Reading.finish_step _ parenthesis]
  have closed : inside.close = Reading.choice ((searchOrder keys).map literalAst) := close
  simp only [Reading.step, Reading.closeGroup, closed]
  rfl

/-- In a group the pattern of declared keys is read as it is alone. -/
theorem finish_declared_group {keys : List Text} (filled : searchOrder keys ≠ []) (behind : Text) :
    (Reading.start ("(?:".toList ++ (declared keys).source ++ ')' :: behind)).finish =
      Reading.finish ⟨⟨[], [.group (.plain []) (declaredAst 1 keys)]⟩, [], false, 1,
        [declaredGroup], behind⟩ := by
  refine (Reading.finish_open ⟨[], []⟩ 0 [] (declared keys).source (')' :: behind)).trans ?_
  refine (finish_declared filled (')' :: behind) ((Reading.start []).within
    ⟨[⟨.plain [], ⟨[], []⟩, false⟩], 0, []⟩ []) rfl (List.not_mem_nil)).trans ?_
  have parenthesis : skip false (')' :: behind) = ')' :: behind := rfl
  rw [Reading.finish_step _ parenthesis]
  rfl

/-- Declared keys as a regular expression. -/
def declaredRegex (keys : List Text) : Regex := Regex.alts ((searchOrder keys).map Regex.literal)

theorem toRegexes_literals (text : Text) :
    Ast.toRegexes KeyPattern.flags (literals text) =
      .ok (text.map fun c => .one (.only c), KeyPattern.flags) := by
  induction text with
  | nil => rfl
  | cons c text ih =>
    have first : Ast.toRegex KeyPattern.flags (.literal ⟨c, false⟩) =
        .ok (.one (.only c), KeyPattern.flags) := rfl
    rw [literals, List.map_cons, Ast.toRegexes, first]
    simp only [bind, Except.bind]
    rw [← literals, ih]
    rfl

theorem literalAst_of_several {text : Text} (several : 1 < text.length) :
    literalAst text = .sequence (literals text) := by
  have length : (literals text).reverse.length = text.length := by simp [literals]
  have parts : (literals text).reverse.reverse = literals text := List.reverse_reverse _
  rw [literalAst, ← parts]
  generalize (literals text).reverse = reversed at length
  match reversed with
  | [] | [_] =>
    simp only [List.length_nil, List.length_singleton] at length
    omega
  | _ :: _ :: _ => rw [List.reverse_reverse]; rfl

theorem toRegex_literalAst (text : Text) :
    (literalAst text).toRegex KeyPattern.flags = .ok (Regex.literal text, KeyPattern.flags) := by
  match text with
  | [] => rfl
  | [c] => rfl
  | c :: d :: rest =>
    rw [literalAst_of_several (by simp), Ast.toRegex, toRegexes_literals]
    rfl

theorem toRegex_declaredAst {keys : List Text} (filled : searchOrder keys ≠ []) (index : Nat) :
    (declaredAst index keys).toRegex KeyPattern.flags =
      .ok (.capture index (declaredRegex keys), KeyPattern.flags) := by
  have each : ∀ texts : List Text, Ast.toRegexes KeyPattern.flags (texts.map literalAst) =
      .ok (texts.map Regex.literal, KeyPattern.flags) := by
    intro texts
    induction texts with
    | nil => rfl
    | cons text texts ih =>
      rw [List.map_cons, Ast.toRegexes, toRegex_literalAst]
      simp only [bind, Except.bind, ih]
      rfl
  rw [declaredAst, Ast.toRegex, toRegex_choice _ (by simpa using filled), each]
  rfl

/-- In a group declared keys mean the same. -/
theorem toRegex_declared_group {keys : List Text} (filled : searchOrder keys ≠ []) :
    (Ast.group (.plain []) (declaredAst 1 keys)).toRegex KeyPattern.flags =
      .ok (.capture 1 (declaredRegex keys), KeyPattern.flags) := by
  have none : KeyPattern.flags.setAll [] = KeyPattern.flags := rfl
  rw [Ast.toRegex, none, toRegex_declaredAst filled 1]
  rfl

theorem groupNames_literalAst (text : Text) : (literalAst text).groupNames = [] := by
  have none : ∀ text, Ast.groupNamesOf (literals text) = [] := by
    intro text
    induction text with
    | nil => rfl
    | cons c text ih => exact ih
  match text with
  | [] | [_] => rfl
  | c :: d :: rest =>
    rw [literalAst_of_several (by simp), Ast.groupNames]
    exact none _

theorem groupNames_declaredAst (index : Nat) (keys : List Text) :
    (declaredAst index keys).groupNames = [(declaredGroup, index)] := by
  rw [declaredAst, Ast.groupNames, groupNames_choice, List.flatMap_map]
  simp [groupNames_literalAst]

theorem depth_literalAst_le (text : Text) : (literalAst text).depth ≤ 1 := by
  have flat : ∀ text, Ast.depths (literals text) = 0 := by
    intro text
    induction text with
    | nil => rfl
    | cons c text ih => exact (Nat.zero_max _).trans ih
  match text with
  | [] | [_] => exact Nat.zero_le 1
  | c :: d :: rest => rw [literalAst_of_several (by simp), Ast.depth, flat]

theorem depth_declaredAst_le (index : Nat) (keys : List Text) :
    (declaredAst index keys).depth ≤ 3 := by
  have each : ∀ texts : List Text, Ast.depths (texts.map literalAst) ≤ 1 := by
    intro texts
    induction texts with
    | nil => exact Nat.zero_le 1
    | cons text texts ih => exact Nat.max_le.mpr ⟨depth_literalAst_le text, ih⟩
  have branches : ∀ asts : List Ast, (Reading.choice asts).depth ≤ Ast.depths asts + 1 := by
    intro asts
    match asts with
    | [ast] => exact Nat.le_succ_of_le (Nat.le_max_left _ _)
    | [] | _ :: _ :: _ => exact Nat.le_refl _
  have shallow := branches ((searchOrder keys).map literalAst)
  have parts := each (searchOrder keys)
  rw [declaredAst, Ast.depth]
  omega

/-- The match of a declared key at a place. -/
def declaredMatch (index : Nat) (place : Place) (key : Text) : Match :=
  ⟨place.position, place.position + key.length,
    [(2 * index + 1, place.position + key.length), (2 * index, place.position)]⟩

theorem group?_declaredMatch (index : Nat) (place : Place) (key : Text) :
    (declaredMatch index place key).group? index =
      some ((declaredMatch index place key).start, (declaredMatch index place key).stop) := by
  have other : (2 * index == 2 * index + 1) = false := by simp
  simp [Match.group?, declaredMatch, List.lookup_cons, other]

/-- A choice between literal texts matches the first one that stands at a place. -/
theorem matchAt_literals {texts : List Text} (filled : texts ≠ [])
    (each : ∀ text ∈ texts, text ≠ []) (place : Place) :
    matchAt (Regex.alts (texts.map Regex.literal)).program place =
      (texts.find? fun text => text <+: place.rest).map fun text =>
        ⟨place.position, place.position + text.length, []⟩ := by
  have unmoved : (texts.map fun text => (0, Regex.literal text)).map
      (fun branch => branch.2.shift branch.1) = texts.map Regex.literal := by
    rw [List.map_map]
    exact List.map_congr_left fun text _ => Regex.shift_zero _
  rw [← unmoved, matchAt_alts (by simpa using filled), List.findSome?_map]
  clear filled unmoved
  induction texts with
  | nil => rfl
  | cons text rest ih =>
    rw [List.findSome?_cons, List.find?_cons, Function.comp_apply,
      matchAt_literal (each text List.mem_cons_self)]
    by_cases begins : text <+: place.rest
    · simp [begins]
    · simpa [begins] using ih fun other inside => each other (List.mem_cons_of_mem _ inside)

/-- The group of declared keys matches the first key in their order that stands at a place. -/
theorem matchAt_declared {keys : List Text} (filled : searchOrder keys ≠ []) (index : Nat)
    (place : Place) :
    matchAt (Regex.capture index (declaredRegex keys)).program place =
      ((searchOrder keys).find? fun key => key <+: place.rest).map
        (declaredMatch index place) := by
  have each : ∀ key ∈ searchOrder keys, key ≠ [] := fun key inside => (mem_searchOrder.mp inside).2
  rw [matchAt_capture, declaredRegex, matchAt_literals filled each, Option.map_map]
  rfl

/-- A match of the group of declared keys is a key that stands there. -/
theorem exists_key_of_matchAt {keys : List Text} (filled : searchOrder keys ≠ []) {index : Nat}
    {place : Place} {m : Match}
    (here : matchAt (Regex.capture index (declaredRegex keys)).program place = some m) :
    ∃ key ∈ searchOrder keys, key <+: place.rest ∧ m = declaredMatch index place key := by
  rw [matchAt_declared filled] at here
  obtain ⟨key, found, made⟩ := Option.map_eq_some_iff.mp here
  have begins := List.find?_some found
  rw [decide_eq_true_eq] at begins
  exact ⟨key, List.mem_of_find?_eq_some found, begins, made.symm⟩

end Fragment

end LocaleLint
