import Mathlib
import LocaleLint.Proofs.Pattern.Locality

/-!
# Reading classes in place

A class in brackets is read up to the bracket that closes it, whatever stands behind.
-/

namespace LocaleLint.Pattern

/-! ## Named classes -/

theorem parenthesis_not_mem_name {name : Text} {kind : AsciiClass}
    (named : AsciiClass.named? name = some kind) : ')' ∉ name := by
  have spelled {word : String} (same : String.ofList name = word) : name = word.toList := by
    rw [← same, String.toList_ofList]
  unfold AsciiClass.named? at named
  split at named
  all_goals first
    | cases named
      done
    | rename_i same
      rw [spelled same]
      decide

private theorem span_append {p : Char → Bool} {text before after : Text} {stop : Char}
    (cut : text.span p = (before, stop :: after)) (behind : Text) :
    (text ++ behind).span p = (before, stop :: (after ++ behind)) := by
  rw [List.span_eq_takeWhile_dropWhile, Prod.mk.injEq] at cut ⊢
  obtain ⟨rfl, dropped⟩ := cut
  constructor
  · rw [List.takeWhile_append, if_neg]
    intro all
    have same := congrArg List.length (List.takeWhile_append_dropWhile (p := p) (l := text))
    rw [List.length_append, all, dropped, List.length_cons] at same
    omega
  · rw [List.dropWhile_append, dropped]
    rfl

private theorem mem_span_end {p : Char → Bool} {text before : Text}
    (cut : text.span p = (before, [])) (behind : Text) (passes : p ')') :
    ')' ∈ ((text ++ ')' :: behind).span p).1 := by
  rw [List.span_eq_takeWhile_dropWhile, Prod.mk.injEq] at cut
  have all := List.takeWhile_append_dropWhile (p := p) (l := text)
  rw [cut.2, List.append_nil] at all
  rw [List.span_eq_takeWhile_dropWhile]
  dsimp only
  rw [List.takeWhile_append, if_pos (by rw [all]), List.takeWhile_cons, if_pos passes]
  exact List.mem_append_right _ List.mem_cons_self

/-- The named class whose name stands in front of a text, up to the bracket that closes it. -/
private def namedBehind (negated : Bool) (inside : Text) : Option (ClassSet × Text) :=
  let (name, after) := inside.span (· ≠ ':')
  match after with
  | ':' :: ']' :: rest => (AsciiClass.named? name).map fun kind => (.ascii kind negated, rest)
  | _ => none

private theorem readAsciiClass?_plain {inside : Text} (plain : inside.head? ≠ some '^') :
    readAsciiClass? (':' :: inside) = namedBehind false inside := by
  unfold readAsciiClass?
  split
  · rename_i same
    cases same
    split
    rename_i marked
    split at marked
    · exact absurd rfl plain
    · cases marked
      rfl
  · rename_i other
    exact absurd rfl (other inside)

private theorem readAsciiClass?_other {text : Text} (other : text.head? ≠ some ':') :
    readAsciiClass? text = none := by
  unfold readAsciiClass?
  split
  · exact absurd rfl other
  · rfl

private theorem namedBehind_eq_some {negated : Bool} {text left : Text} {item : ClassSet} :
    namedBehind negated text = some (item, left) ↔
      ∃ name kind, text.span (· ≠ ':') = (name, ':' :: ']' :: left) ∧
        AsciiClass.named? name = some kind ∧ item = .ascii kind negated := by
  unfold namedBehind
  cases text.span (· ≠ ':') with
  | mk name after =>
    dsimp only
    split
    · rename_i rest
      rw [Option.map_eq_some_iff]
      constructor
      · rintro ⟨kind, named, same⟩
        cases same
        exact ⟨name, kind, rfl, named, rfl⟩
      · rintro ⟨name', kind, same, named, rfl⟩
        cases same
        exact ⟨kind, named, rfl⟩
    · rename_i other
      constructor
      · nofun
      · rintro ⟨name', kind, cut, -, -⟩
        cases cut
        exact absurd rfl (other left)

private theorem namedBehind_some {negated : Bool} {text left : Text} {item : ClassSet}
    (read : namedBehind negated text = some (item, left)) :
    left.length ≤ text.length ∧
      ∀ behind, namedBehind negated (text ++ behind) = some (item, left ++ behind) := by
  obtain ⟨name, kind, cut, named, rfl⟩ := namedBehind_eq_some.mp read
  constructor
  · have := congrArg (fun cut => cut.2.length) cut
    rw [List.span_eq_takeWhile_dropWhile] at this
    have shorter := (List.dropWhile_suffix (l := text) (· ≠ ':')).length_le
    simp only [List.length_cons] at this
    omega
  · intro behind
    exact namedBehind_eq_some.mpr ⟨name, kind, span_append cut behind, named, rfl⟩

private theorem namedBehind_none {negated : Bool} {text : Text}
    (nothing : namedBehind negated text = none) (behind : Text) :
    namedBehind negated (text ++ ')' :: behind) = none := by
  rw [Option.eq_none_iff_forall_ne_some]
  rintro ⟨item, left⟩ read
  obtain ⟨name, kind, cut, named, rfl⟩ := namedBehind_eq_some.mp read
  have absent := parenthesis_not_mem_name named
  cases alone : text.span (· ≠ ':') with
  | mk before after =>
    cases after with
    | nil =>
      have := mem_span_end alone behind (by decide)
      rw [cut] at this
      exact absent this
    | cons stop after =>
      rw [span_append alone, Prod.mk.injEq, List.cons.injEq] at cut
      obtain ⟨rfl, rfl, closes⟩ := cut
      cases after with
      | nil => cases closes
      | cons c after =>
        cases closes
        rw [namedBehind_eq_some.mpr ⟨before, kind, alone, named, rfl⟩] at nothing
        cases nothing

/-- The ways in which a text may begin where a named class is looked for. -/
private theorem colon_cases (text : Text) : text.head? ≠ some ':' ∨
    (∃ inside, text = ':' :: '^' :: inside) ∨
    ∃ inside, text = ':' :: inside ∧ inside.head? ≠ some '^' := by
  by_cases colon : text.head? = some ':'
  · obtain ⟨inside, rfl⟩ := List.head?_eq_some_iff.mp colon
    by_cases caret : inside.head? = some '^'
    · obtain ⟨rest, rfl⟩ := List.head?_eq_some_iff.mp caret
      exact .inr (.inl ⟨rest, rfl⟩)
    · exact .inr (.inr ⟨inside, rfl, caret⟩)
  · exact .inl colon

theorem readAsciiClass?_some {text left : Text} {item : ClassSet}
    (read : readAsciiClass? text = some (item, left)) :
    left.length ≤ text.length ∧
      ∀ behind, readAsciiClass? (text ++ behind) = some (item, left ++ behind) := by
  rcases colon_cases text with other | ⟨inside, rfl⟩ | ⟨inside, rfl, plain⟩
  · rw [readAsciiClass?_other other] at read
    cases read
  · obtain ⟨short, onward⟩ := namedBehind_some read
    exact ⟨by simp only [List.length_cons]; omega, onward⟩
  · rw [readAsciiClass?_plain plain] at read
    obtain ⟨short, onward⟩ := namedBehind_some read
    refine ⟨by rw [List.length_cons]; omega, fun behind => ?_⟩
    cases inside with
    | nil => cases read
    | cons c inside =>
      have plain' : (c :: inside ++ behind).head? ≠ some '^' := plain
      rw [List.cons_append, readAsciiClass?_plain plain', onward]

theorem readAsciiClass?_none {text : Text} (nothing : readAsciiClass? text = none)
    (behind : Text) : readAsciiClass? (text ++ ')' :: behind) = none := by
  rcases colon_cases text with other | ⟨inside, rfl⟩ | ⟨inside, rfl, plain⟩
  · apply readAsciiClass?_other
    cases text with
    | nil => simp
    | cons c text => exact other
  · exact namedBehind_none nothing behind
  · rw [readAsciiClass?_plain plain] at nothing
    rw [List.cons_append, readAsciiClass?_plain, namedBehind_none nothing]
    cases inside with
    | nil => simp
    | cons c inside => exact plain

/-! ## Openings -/

/-- What a class holds behind its opening bracket and the sign that negates it. -/
private def openingBehind (verbose negated : Bool) (text : Text) :
    Except Fault (Bool × List ClassSet × Text) :=
  let (dashes, text) := takeSkipping verbose (· == '-') text
  match text with
  | [] => .error .classUnclosed
  | c :: rest =>
    if dashes.isEmpty && c == ']' then
      match skip verbose rest with
      | [] => .error .classUnclosed
      | rest => .ok (negated, [.literal ⟨']', false⟩], rest)
    else .ok (negated, dashes.map fun d => .literal ⟨d, false⟩, text)

private theorem readOpening_caret {verbose : Bool} {text rest : Text}
    (caret : skip verbose text = '^' :: rest) :
    readOpening verbose text = openingBehind verbose true (skip verbose rest) := by
  rw [readOpening, caret]
  rfl

private theorem readOpening_plain {verbose : Bool} {text : Text}
    (plain : (skip verbose text).head? ≠ some '^') :
    readOpening verbose text = openingBehind verbose false (skip verbose text) := by
  cases skipped : skip verbose text with
  | nil =>
    rw [readOpening, skipped]
    rfl
  | cons c rest =>
    rw [skipped] at plain
    have other : c ≠ '^' := fun same => plain (congrArg some same)
    cases took : (takeSkipping verbose (· == '-') (c :: rest)).2 with
    | nil => simp [readOpening, openingBehind, skipped, other, took]
    | cons d more =>
      cases next : skip verbose more <;>
        simp [readOpening, openingBehind, skipped, other, took, next]

private theorem openingBehind_append {verbose negated negated' : Bool} {items : List ClassSet}
    {text left : Text} (read : openingBehind verbose negated text = .ok (negated', items, left)) :
    left ≠ [] ∧ left.length ≤ text.length ∧ ∀ behind,
      openingBehind verbose negated (text ++ behind) = .ok (negated', items, left ++ behind) := by
  unfold openingBehind at read
  cases took : takeSkipping verbose (· == '-') text with
  | mk dashes after =>
    rw [took] at read
    cases after with
    | nil => cases read
    | cons c rest =>
      have short := length_takeSkipping_le took
      have onward (behind : Text) := takeSkipping_append took (List.cons_ne_nil _ _) behind
      dsimp only at read
      split at read
      · rename_i closing
        cases skipped : skip verbose rest with
        | nil =>
          rw [skipped] at read
          cases read
        | cons d more =>
          rw [skipped] at read
          cases read
          have shorter := length_skip_le verbose rest
          have later (behind : Text) := skip_append (by rw [skipped]; simp) behind
          simp only [skipped] at later shorter
          refine ⟨List.cons_ne_nil _ _, ?_, fun behind => ?_⟩
          · rw [List.length_cons] at short
            omega
          · rw [openingBehind, onward]
            simp only [List.cons_append, closing, if_true, later]
      · rename_i other
        cases read
        refine ⟨List.cons_ne_nil _ _, short, fun behind => ?_⟩
        rw [openingBehind, onward]
        simp only [List.cons_append, other, Bool.false_eq_true, if_false]

theorem readOpening_append {verbose negated : Bool} {items : List ClassSet} {text left : Text}
    (read : readOpening verbose text = .ok (negated, items, left)) :
    left.length ≤ text.length ∧ ∀ behind,
      readOpening verbose (text ++ behind) = .ok (negated, items, left ++ behind) := by
  have shorter := length_skip_le verbose text
  by_cases caret : (skip verbose text).head? = some '^'
  · obtain ⟨rest, skipped⟩ := List.head?_eq_some_iff.mp caret
    rw [readOpening_caret skipped] at read
    obtain ⟨some, short, onward⟩ := openingBehind_append read
    have more : skip verbose rest ≠ [] := by
      intro none
      rw [none] at short
      exact some (List.length_eq_zero_iff.mp (Nat.le_zero.mp short))
    refine ⟨?_, fun behind => ?_⟩
    · have := length_skip_le verbose rest
      rw [skipped, List.length_cons] at shorter
      omega
    · have later : skip verbose (text ++ behind) = '^' :: (rest ++ behind) := by
        rw [skip_append (by simp [skipped]), skipped]
        rfl
      rw [readOpening_caret later, skip_append more, onward]
  · rw [readOpening_plain caret] at read
    obtain ⟨some, short, onward⟩ := openingBehind_append read
    have more : skip verbose text ≠ [] := by
      intro none
      rw [none] at short
      exact some (List.length_eq_zero_iff.mp (Nat.le_zero.mp short))
    refine ⟨Nat.le_trans short shorter, fun behind => ?_⟩
    have plain : (skip verbose (text ++ behind)).head? ≠ Option.some '^' := by
      rw [skip_append more, List.head?_append_of_ne_nil _ more]
      exact caret
    rw [readOpening_plain plain, skip_append more, onward]

/-! ## Items -/

theorem reads_readClassPrimitive {verbose : Bool} {text left : Text} {primitive : Primitive}
    (read : readClassPrimitive verbose text = .ok (primitive, left)) :
    Reads verbose (readClassPrimitive verbose) text primitive left := by
  cases text with
  | nil => cases read
  | cons c rest =>
    apply Reads.cons
    by_cases escape : c = '\\'
    · subst escape
      exact reads_readEscape read
    · simp only [readClassPrimitive] at read ⊢
      cases read
      exact .refl

theorem peekBlank_append {comment : Bool} {text : Text} {c : Char}
    (peeked : peekBlank comment text = some c) (behind : Text) :
    peekBlank comment (text ++ behind) = some c := by
  induction text generalizing comment with
  | nil => cases peeked
  | cons d rest ih =>
    rw [List.cons_append, peekBlank]
    rw [peekBlank] at peeked
    split
    · rename_i white
      rw [if_pos white] at peeked
      exact ih peeked
    · rename_i black
      rw [if_neg black] at peeked
      split
      · rename_i opens
        rw [if_pos opens] at peeked
        exact ih peeked
      · rename_i plain
        rw [if_neg plain] at peeked
        exact peeked

private theorem blank_of_peekBlank {comment : Bool} {text : Text}
    (nothing : peekBlank comment text = none) : ∀ c ∈ text, Text.isWhite c ∨ c = '#' := by
  induction text generalizing comment with
  | nil => nofun
  | cons d rest ih =>
    rw [peekBlank] at nothing
    intro c inside
    split at nothing
    · rename_i white
      rcases List.mem_cons.mp inside with rfl | later
      · exact .inl white
      · exact ih nothing c later
    · split at nothing
      · rename_i opens
        rw [Bool.and_eq_true, beq_iff_eq] at opens
        rcases List.mem_cons.mp inside with rfl | later
        · exact .inr opens.2
        · exact ih nothing c later
      · cases nothing

private theorem skipBlank_of_blank {comment : Bool} {text : Text}
    (blank : ∀ c ∈ text, Text.isWhite c ∨ c = '#') : skipBlank comment text = [] := by
  induction text generalizing comment with
  | nil => cases comment <;> rfl
  | cons d rest ih =>
    have later {comment : Bool} : skipBlank comment rest = [] :=
      ih fun c inside => blank c (List.mem_cons_of_mem _ inside)
    cases comment with
    | true => exact later
    | false =>
      rw [skipBlank]
      split
      · exact later
      · rename_i black
        rw [if_pos ((blank d List.mem_cons_self).resolve_left black)]
        exact later

/-- What follows a dash is seen where it stands, if anything does. -/
theorem peekAfterDash_append {verbose : Bool} {text : Text}
    (some : peekAfterDash verbose text = some ']' ∨ peekAfterDash verbose text = some '-' ∨
      skip verbose text ≠ []) (behind : Text) :
    peekAfterDash verbose (text ++ behind) = peekAfterDash verbose text := by
  cases verbose with
  | true =>
    simp only [peekAfterDash, if_true] at some ⊢
    cases peeked : peekBlank false text with
    | some c => rw [peekBlank_append peeked, Option.some_or, Option.some_or]
    | none =>
      exfalso
      have blank := blank_of_peekBlank peeked
      have nothing : skip true text = [] := skipBlank_of_blank blank
      rw [peeked, Option.none_or] at some
      cases text with
      | nil => simp at some
      | cons c text =>
        have first := blank c List.mem_cons_self
        rw [List.head?_cons, Option.some.injEq, Option.some.injEq] at some
        rcases some with rfl | rfl | more
        · revert first
          decide
        · revert first
          decide
        · exact more nothing
  | false =>
    cases text with
    | nil => simp [peekAfterDash, skip] at some
    | cons c text => rfl

/-- What is read of a range behind its dash. -/
private def rangeBehind (verbose : Bool) (first : Primitive) (text : Text) :
    Except Fault (ClassSet × Text) := do
  let (last, text) ← readClassPrimitive verbose text
  let first ← first.toBoundary
  let last ← last.toBoundary
  if last.char < first.char then throw .classRangeOrder
  return (.range first last, text)

/-- What is read of an item behind its first character, white space and comments left out. -/
private def itemBehind (verbose : Bool) (first : Primitive) :
    Text → Except Fault (ClassSet × Text)
  | [] => .error .classUnclosed
  | '-' :: rest =>
    if peekAfterDash verbose rest == some ']' || peekAfterDash verbose rest == some '-' then
      first.toClassSet.map fun set => (set, '-' :: rest)
    else rangeBehind verbose first (skip verbose rest)
  | text => first.toClassSet.map fun set => (set, text)

private theorem itemBehind_other {verbose : Bool} {first : Primitive} {c : Char}
    (other : c ≠ '-') (rest : Text) :
    itemBehind verbose first (c :: rest) = first.toClassSet.map fun set => (set, c :: rest) := by
  unfold itemBehind
  split
  · contradiction
  · rename_i same
    cases same
    exact absurd rfl other
  · rfl

private theorem readClassItem_of_primitive {verbose : Bool} {text rest : Text} {first : Primitive}
    (read : readClassPrimitive verbose text = .ok (first, rest)) :
    readClassItem verbose text = itemBehind verbose first (skip verbose rest) := by
  simp only [readClassItem, read, bind, Except.bind]
  cases skip verbose rest with
  | nil => rfl
  | cons c more =>
    by_cases dash : c = '-'
    · subst dash
      simp only [itemBehind]
      split
      · cases first.toClassSet <;> rfl
      · cases skip verbose more <;> rfl
    · rw [itemBehind_other dash]
      split
      · contradiction
      · rename_i same
        cases same
        exact absurd rfl dash
      · cases first.toClassSet <;> rfl

private theorem reads_rangeBehind {verbose : Bool} {first : Primitive} {text left : Text}
    {item : ClassSet} (read : rangeBehind verbose first text = .ok (item, left)) :
    Reads verbose (rangeBehind verbose first) text item left := by
  obtain ⟨⟨last, rest⟩, primitive, found⟩ := bind_eq_ok.mp read
  obtain ⟨low, lower, found⟩ := bind_eq_ok.mp found
  obtain ⟨high, upper, found⟩ := bind_eq_ok.mp found
  split at found
  · cases found
  · rename_i ordered
    cases found
    have same (behind left : Text)
        (ends : readClassPrimitive verbose (text ++ behind) = .ok (last, left)) :
        rangeBehind verbose first (text ++ behind) = .ok (.range low high, left) := by
      simp only [rangeBehind, ends, lower, upper, bind, Except.bind, ordered, if_false]
      rfl
    exact .after (reads_readClassPrimitive primitive) same rfl .refl

private theorem reads_itemBehind {verbose : Bool} {first : Primitive} {text left : Text}
    {item : ClassSet} (read : itemBehind verbose first text = .ok (item, left)) :
    Reads verbose (itemBehind verbose first) text item left := by
  unfold itemBehind at read
  split at read
  · cases read
  · rename_i rest
    split at read
    · -- The dash stands for itself.
      rename_i alone
      obtain ⟨set, made, same⟩ := map_eq_ok.mp read
      cases same
      have peeked := alone
      simp only [Bool.or_eq_true, beq_iff_eq] at peeked
      refine ⟨Nat.le_refl _, .inl fun behind => ?_⟩
      rw [List.cons_append, itemBehind, peekAfterDash_append (peeked.imp_right .inl),
        if_pos alone, made]
      rfl
    · -- The dash makes a range.
      rename_i range
      have more : skip verbose rest ≠ [] := by
        intro none
        rw [none] at read
        cases read
      have same (behind left : Text)
          (whole : Except.ok (ε := Fault) ((), rest ++ behind) = .ok ((), left)) :
          itemBehind verbose first ('-' :: (rest ++ behind)) =
            rangeBehind verbose first (skip verbose left) := by
        cases whole
        rw [itemBehind, peekAfterDash_append (.inr (.inr more)), if_neg range]
      exact .cons (.after .refl same read (.skip read (reads_rangeBehind read)))
  · rename_i some dash
    obtain ⟨set, made, same⟩ := map_eq_ok.mp read
    cases same
    cases text with
    | nil => exact absurd rfl some
    | cons c rest =>
      have other : c ≠ '-' := by
        rintro rfl
        exact dash rest rfl
      refine ⟨Nat.le_refl _, .inl fun behind => ?_⟩
      rw [List.cons_append, itemBehind_other other, made]
      rfl

theorem reads_readClassItem {verbose : Bool} {text left : Text} {item : ClassSet}
    (read : readClassItem verbose text = .ok (item, left)) :
    Reads verbose (readClassItem verbose) text item left := by
  obtain ⟨⟨first, rest⟩, primitive, -⟩ := bind_eq_ok.mp read
  rw [readClassItem_of_primitive primitive] at read
  exact .after (reads_readClassPrimitive primitive) (fun _ _ => readClassItem_of_primitive) read
    (.skip read (reads_itemBehind read))

/-! ## Classes -/

/-- A text at which a class goes on with an item: no bracket and no operator stands there. -/
private structure BeginsItem (text : Text) : Prop where
  some : text ≠ []
  opens : ∀ rest, text ≠ '[' :: rest
  closes : ∀ rest, text ≠ ']' :: rest
  meets : ∀ rest, text ≠ '&' :: '&' :: rest
  lacks : ∀ rest, text ≠ '-' :: '-' :: rest
  differs : ∀ rest, text ≠ '~' :: '~' :: rest

private theorem not_doubled_append {c d : Char} {rest : Text} (other : d ≠ ')')
    (single : ∀ more, c :: rest ≠ d :: d :: more) (behind : Text) :
    ∀ more, c :: (rest ++ ')' :: behind) ≠ d :: d :: more := by
  intro more same
  cases rest with
  | nil =>
    cases same
    exact other rfl
  | cons e rest =>
    cases same
    exact single rest rfl

private theorem BeginsItem.append {text : Text} (begins : BeginsItem text) (behind : Text) :
    BeginsItem (text ++ ')' :: behind) := by
  obtain ⟨some, opens, closes, meets, lacks, differs⟩ := begins
  cases text with
  | nil => exact absurd rfl some
  | cons c text =>
    refine ⟨List.cons_ne_nil _ _, fun rest same => ?_, fun rest same => ?_,
      not_doubled_append (by decide) meets behind, not_doubled_append (by decide) lacks behind,
      not_doubled_append (by decide) differs behind⟩
    · cases same
      exact opens text rfl
    · cases same
      exact closes text rfl

private theorem readClassItems_item {verbose : Bool} {fuel : Nat} {frames : List ClassFrame}
    {items : List ClassSet} {text rest : Text} {item : ClassSet}
    (begins : BeginsItem (skip verbose text))
    (read : readClassItem verbose (skip verbose text) = .ok (item, rest)) :
    readClassItems verbose (fuel + 1) frames items text =
      readClassItems verbose fuel frames (item :: items) rest := by
  rw [readClassItems]
  split
  · exact absurd ‹_› begins.some
  · exact absurd ‹_› (begins.opens _)
  · exact absurd ‹_› (begins.closes _)
  · exact absurd ‹_› (begins.meets _)
  · exact absurd ‹_› (begins.lacks _)
  · exact absurd ‹_› (begins.differs _)
  · rw [read]
    rfl

theorem readClassItems_append {verbose : Bool} {fuel : Nat} {frames : List ClassFrame}
    {items : List ClassSet} {text left : Text} {ast : Ast}
    (read : readClassItems verbose fuel frames items text = .ok (ast, left)) :
    left.length < text.length ∧ (∃ negated set, ast = .bracketed negated set) ∧
      ∀ behind fuel', fuel ≤ fuel' →
        readClassItems verbose fuel' frames items (text ++ ')' :: behind) =
          .ok (ast, left ++ ')' :: behind) := by
  induction fuel generalizing frames items text with
  | zero => cases read
  | succ fuel ih =>
    suffices onward : left.length < text.length ∧ (∃ negated set, ast = .bracketed negated set) ∧
        ∀ behind fuel', fuel ≤ fuel' →
          readClassItems verbose (fuel' + 1) frames items (text ++ ')' :: behind) =
            .ok (ast, left ++ ')' :: behind) by
      refine ⟨onward.1, onward.2.1, fun behind fuel' more => ?_⟩
      obtain ⟨fuel', rfl⟩ := Nat.exists_eq_add_one.mpr (Nat.lt_of_lt_of_le (Nat.succ_pos _) more)
      exact onward.2.2 behind fuel' (Nat.le_of_succ_le_succ more)
    have shorter := length_skip_le verbose text
    have goes (some : skip verbose text ≠ []) (behind : Text) :
        skip verbose (text ++ ')' :: behind) = skip verbose text ++ ')' :: behind :=
      skip_append some _
    -- A round that goes on does so behind a parenthesis, too.
    have round {frames' : List ClassFrame} {items' : List ClassSet} {rest : Text}
        (short : rest.length ≤ (skip verbose text).length)
        (read : readClassItems verbose fuel frames' items' rest = .ok (ast, left))
        (same : rest ≠ [] → ∀ behind fuel',
          readClassItems verbose (fuel' + 1) frames items (text ++ ')' :: behind) =
            readClassItems verbose fuel' frames' items' (rest ++ ')' :: behind)) :
        left.length < text.length ∧ (∃ negated set, ast = .bracketed negated set) ∧
          ∀ behind fuel', fuel ≤ fuel' →
            readClassItems verbose (fuel' + 1) frames items (text ++ ')' :: behind) =
              .ok (ast, left ++ ')' :: behind) := by
      obtain ⟨length, bracketed, later⟩ := ih read
      refine ⟨by omega, bracketed, fun behind fuel' more => ?_⟩
      rw [same (List.ne_nil_of_length_pos (by omega))]
      exact later behind fuel' more
    rw [readClassItems] at read
    split at read
    · cases read
    · rename_i rest skipped
      rw [skipped] at goes round shorter
      simp only [List.length_cons] at round shorter
      split at read
      · rename_i item rest' named
        obtain ⟨short, onward⟩ := readAsciiClass?_some named
        refine round (by omega) read fun _ behind fuel' => ?_
        rw [readClassItems, goes (List.cons_ne_nil _ _)]
        simp only [List.cons_append, onward]
      · rename_i unnamed
        obtain ⟨⟨negated, first, rest'⟩, opened, read⟩ := bind_eq_ok.mp read
        obtain ⟨short, onward⟩ := readOpening_append opened
        refine round (by omega) read fun _ behind fuel' => ?_
        rw [readClassItems, goes (List.cons_ne_nil _ _)]
        simp only [List.cons_append, readAsciiClass?_none unnamed, onward]
        rfl
    · rename_i rest skipped
      rw [skipped] at goes round shorter
      simp only [List.length_cons] at round shorter
      split at read
      · rename_i set bracket before negated closes
        cases read
        refine ⟨by omega, ⟨_, _, rfl⟩, fun behind fuel' more => ?_⟩
        rw [readClassItems, goes (List.cons_ne_nil _ _)]
        simp only [List.cons_append, closes]
      · rename_i set before negated frames' nested closes
        refine round (by omega) read fun _ behind fuel' => ?_
        rw [readClassItems, goes (List.cons_ne_nil _ _)]
        simp only [List.cons_append, closes]
      · cases read
    -- An operator stands in a class.
    iterate 3
      · rename_i rest skipped
        rw [skipped] at goes round
        refine round (by simp only [List.length_cons]; omega) read fun _ behind fuel' => ?_
        rw [readClassItems, goes (List.cons_ne_nil _ _)]
        rfl
    · rename_i some opens closes meets lacks differs
      obtain ⟨⟨item, rest⟩, found, read⟩ := bind_eq_ok.mp read
      have begins : BeginsItem (skip verbose text) :=
        ⟨some, opens, closes, meets, lacks, differs⟩
      have reads := reads_readClassItem found
      refine round reads.1 read fun more behind fuel' => ?_
      have item := reads.2.resolve_right (fun hidden => more hidden.2.1) behind
      rw [← goes some behind] at item
      exact readClassItems_item (by rw [goes some]; exact begins.append behind) item

/-- A class is read the same where a parenthesis follows. -/
theorem readClass_append {verbose : Bool} {text left : Text} {ast : Ast}
    (read : readClass verbose text = .ok (ast, left)) :
    left.length < text.length ∧ (∃ negated set, ast = .bracketed negated set) ∧
      ∀ behind, readClass verbose (text ++ ')' :: behind) = .ok (ast, left ++ ')' :: behind) := by
  obtain ⟨⟨negated, first, rest⟩, opened, read⟩ := bind_eq_ok.mp read
  obtain ⟨short, onward⟩ := readOpening_append opened
  obtain ⟨length, bracketed, later⟩ := readClassItems_append read
  refine ⟨by omega, bracketed, fun behind => ?_⟩
  rw [readClass, onward]
  exact later behind _ (by rw [List.length_append]; omega)

end LocaleLint.Pattern
