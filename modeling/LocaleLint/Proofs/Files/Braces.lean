import Mathlib
import LocaleLint.Files.Braces
import LocaleLint.Proofs.Text.Splitting

/-!
# Brace alternatives as a product

A pattern with balanced braces in front of another one stands for what the two stand for, one behind
the other, and a group stands for what its alternatives stand for, one after another.
-/

namespace LocaleLint.Braces

open Text

/-! ## Open braces -/

/-- Where `depth` braces are open in front of a text, none is closed in it that is not open. -/
def Stays (depth : Nat) (s : Text) : Prop :=
  ∀ start, start <+: s → start.count '\x7d' ≤ depth + start.count '\x7b'

/-- Each brace of a text is opened and closed in it. -/
structure Balanced (s : Text) : Prop where
  stays : Stays 0 s
  ends : s.count '\x7d' = s.count '\x7b'

/-- The commas of a text stand inside its braces. -/
def InnerCommas (s : Text) : Prop :=
  ∀ start, start ++ [','] <+: s → start.count '\x7d' < start.count '\x7b'

/-- The rest of an alternative in which `depth` braces are open: they are closed at its end, and its
commas stand inside of braces. -/
structure Fits (depth : Nat) (s : Text) : Prop where
  stays : Stays depth s
  commas : ∀ start, start ++ [','] <+: s → start.count '\x7d' < depth + start.count '\x7b'
  ends : s.count '\x7d' = depth + s.count '\x7b'

/-- How many braces are open behind a character. -/
def depthBehind (c : Char) (depth : Nat) : Nat :=
  if c = '\x7b' then depth + 1 else if c = '\x7d' then depth - 1 else depth

theorem fits_zero_iff {s : Text} : Fits 0 s ↔ Balanced s ∧ InnerCommas s := by
  constructor
  · rintro ⟨stays, commas, ends⟩
    refine ⟨⟨stays, ends.trans (Nat.zero_add _)⟩, fun start inside => ?_⟩
    have := commas start inside
    rwa [Nat.zero_add] at this
  · rintro ⟨⟨stays, ends⟩, commas⟩
    refine ⟨stays, fun start inside => ?_, ends.trans (Nat.zero_add _).symm⟩
    rw [Nat.zero_add]
    exact commas start inside

private theorem count_behind {c : Char} {depth : Nat} (open_ : ¬ (depth = 0 ∧ c = '\x7d'))
    (s : Text) : (c :: s).count '\x7d' + depthBehind c depth + s.count '\x7b' =
      depth + (c :: s).count '\x7b' + s.count '\x7d' := by
  unfold depthBehind
  by_cases opens : c = '\x7b'
  · simp [opens]
    omega
  · by_cases closes : c = '\x7d'
    · have deep : depth ≠ 0 := fun zero => open_ ⟨zero, closes⟩
      simp [closes]
      omega
    · simp [opens, closes]
      omega

theorem stays_cons {c : Char} {depth : Nat} {s : Text} :
    Stays depth (c :: s) ↔ ¬ (depth = 0 ∧ c = '\x7d') ∧ Stays (depthBehind c depth) s := by
  constructor
  · intro stays
    have open_ : ¬ (depth = 0 ∧ c = '\x7d') := by
      rintro ⟨rfl, rfl⟩
      have first := stays ['\x7d'] (by simp)
      simp at first
    refine ⟨open_, fun start inside => ?_⟩
    have later := stays (c :: start) (List.cons_prefix_cons.mpr ⟨rfl, inside⟩)
    have counts := count_behind open_ start
    omega
  · rintro ⟨open_, stays⟩ start inside
    cases start with
    | nil => exact Nat.zero_le _
    | cons d start =>
      obtain ⟨rfl, behind⟩ := List.cons_prefix_cons.mp inside
      have later := stays start behind
      have counts := count_behind open_ start
      omega

theorem fits_nil_iff {depth : Nat} : Fits depth [] ↔ depth = 0 := by
  constructor
  · intro fits
    exact fits.ends.symm
  · rintro rfl
    refine ⟨fun start inside => ?_, fun start inside => ?_, rfl⟩
    · rw [List.prefix_nil.mp inside]
      exact Nat.le_refl 0
    · simp at inside

theorem fits_cons_iff {c : Char} {depth : Nat} {s : Text} :
    Fits depth (c :: s) ↔
      ¬ (depth = 0 ∧ (c = '\x7d' ∨ c = ',')) ∧ Fits (depthBehind c depth) s := by
  constructor
  · rintro ⟨stays, commas, ends⟩
    obtain ⟨open_, stays⟩ := stays_cons.mp stays
    have counts (start : Text) := count_behind open_ start
    refine ⟨?_, stays, fun start inside => ?_, ?_⟩
    · rintro ⟨rfl, rfl | rfl⟩
      · exact open_ ⟨rfl, rfl⟩
      · have first := commas [] (by simp)
        simp at first
    · have later := commas (c :: start) (List.cons_prefix_cons.mpr ⟨rfl, inside⟩)
      have := counts start
      omega
    · have := counts s
      omega
  · rintro ⟨inner, stays, commas, ends⟩
    have open_ : ¬ (depth = 0 ∧ c = '\x7d') := fun ⟨zero, closes⟩ => inner ⟨zero, .inl closes⟩
    have counts (start : Text) := count_behind open_ start
    refine ⟨stays_cons.mpr ⟨open_, stays⟩, fun start inside => ?_, ?_⟩
    · cases start with
      | nil =>
        have comma : ',' = c := (List.cons_prefix_cons.mp inside).1
        have deep : depth ≠ 0 := fun zero => inner ⟨zero, .inr comma.symm⟩
        exact Nat.pos_of_ne_zero deep
      | cons d start =>
        obtain ⟨rfl, behind⟩ := List.cons_prefix_cons.mp inside
        have later := commas start behind
        have := counts start
        omega
    · have := counts s
      omega

/-! ## Alternatives -/

theorem alternatives_cons (c : Char) (depth : Nat) (s : Text) :
    alternatives depth (c :: s) =
      if depth = 0 ∧ c = '\x7d' then some ([[]], s)
      else if depth = 0 ∧ c = ',' then
        (alternatives 0 s).map fun (items, after) => ([] :: items, after)
      else
        (alternatives (depthBehind c depth) s).map fun (items, after) =>
          ((c :: items.headD []) :: items.tail, after) := rfl

/-- A group that is closed is read as its alternatives. -/
theorem alternatives_joinWith {depth : Nat} {first : Text} {rest : List Text}
    (fits : Fits depth first) (others : ∀ item ∈ rest, Fits 0 item) (after : Text) :
    alternatives depth (joinWith [','] (first :: rest) ++ '\x7d' :: after) =
      some (first :: rest, after) := by
  induction rest generalizing depth first with
  | nil =>
    induction first generalizing depth with
    | nil =>
      rw [fits_nil_iff.mp fits]
      rfl
    | cons c first ih =>
      obtain ⟨inner, fits⟩ := fits_cons_iff.mp fits
      have onward := ih fits
      simp only [joinWith] at onward ⊢
      rw [List.cons_append, alternatives_cons, if_neg (fun h => inner ⟨h.1, .inl h.2⟩),
        if_neg (fun h => inner ⟨h.1, .inr h.2⟩), onward]
      rfl
  | cons second rest ihRest =>
    obtain ⟨next, others⟩ := List.forall_mem_cons.mp others
    induction first generalizing depth with
    | nil =>
      have onward := ihRest next others
      rw [fits_nil_iff.mp fits, joinWith_cons_cons, List.nil_append, List.singleton_append,
        List.cons_append, alternatives_cons, if_neg (by decide), if_pos ⟨rfl, rfl⟩, onward]
      rfl
    | cons c first ih =>
      obtain ⟨inner, fits⟩ := fits_cons_iff.mp fits
      have onward := ih fits
      rw [joinWith_cons_cons] at onward ⊢
      rw [List.cons_append, List.cons_append, List.cons_append, alternatives_cons,
        if_neg (fun h => inner ⟨h.1, .inl h.2⟩), if_neg (fun h => inner ⟨h.1, .inr h.2⟩), onward]
      rfl

/-- Alternatives that have been read are those of a group that is closed. -/
theorem exists_of_alternatives {depth : Nat} {s after : Text} {items : List Text}
    (read : alternatives depth s = some (items, after)) :
    ∃ first rest, items = first :: rest ∧ Fits depth first ∧ (∀ item ∈ rest, Fits 0 item) ∧
      s = joinWith [','] items ++ '\x7d' :: after := by
  induction s generalizing depth items with
  | nil => cases read
  | cons c s ih =>
    rw [alternatives_cons] at read
    split at read
    · next closes =>
      cases read
      obtain ⟨rfl, rfl⟩ := closes
      exact ⟨[], [], rfl, fits_nil_iff.mpr rfl, by simp, rfl⟩
    · next open_ =>
      split at read
      · next comma =>
        obtain ⟨rfl, rfl⟩ := comma
        obtain ⟨⟨items, _⟩, read, same⟩ := Option.map_eq_some_iff.mp read
        cases same
        obtain ⟨first, rest, rfl, fits, others, rfl⟩ := ih read
        exact ⟨[], first :: rest, rfl, fits_nil_iff.mpr rfl,
          List.forall_mem_cons.mpr ⟨fits, others⟩, rfl⟩
      · next inner =>
        obtain ⟨⟨items, _⟩, read, same⟩ := Option.map_eq_some_iff.mp read
        cases same
        obtain ⟨first, rest, rfl, fits, others, rfl⟩ := ih read
        refine ⟨c :: first, rest, rfl, fits_cons_iff.mpr ⟨?_, fits⟩, others, ?_⟩
        · rintro ⟨zero, closes | comma⟩
          · exact open_ ⟨zero, closes⟩
          · exact inner ⟨zero, comma⟩
        · cases rest <;> rfl

/-- A group is not closed exactly if no more braces are closed behind it than opened. -/
theorem alternatives_eq_none_iff {depth : Nat} {s : Text} :
    alternatives depth s = none ↔ Stays depth s := by
  induction s generalizing depth with
  | nil =>
    refine ⟨fun _ start inside => ?_, fun _ => rfl⟩
    rw [List.prefix_nil.mp inside]
    exact Nat.zero_le _
  | cons c s ih =>
    rw [alternatives_cons, stays_cons]
    split
    · next closes => simp [closes]
    · next open_ =>
      rw [and_iff_right open_]
      split
      · next comma =>
        obtain ⟨rfl, rfl⟩ := comma
        rw [Option.map_eq_none_iff]
        exact ih
      · rw [Option.map_eq_none_iff]
        exact ih

instance (depth : Nat) (s : Text) : Decidable (Stays depth s) :=
  decidable_of_iff _ alternatives_eq_none_iff

instance (s : Text) : Decidable (Balanced s) :=
  decidable_of_iff (Stays 0 s ∧ s.count '\x7d' = s.count '\x7b')
    ⟨fun ⟨stays, ends⟩ => ⟨stays, ends⟩, fun balanced => ⟨balanced.stays, balanced.ends⟩⟩

instance decidableFits : (depth : Nat) → (s : Text) → Decidable (Fits depth s)
  | _, [] => decidable_of_iff _ fits_nil_iff.symm
  | depth, c :: s =>
    have := decidableFits (depthBehind c depth) s
    decidable_of_iff _ fits_cons_iff.symm

/-! ## Balanced texts -/

theorem stays_append_iff {depth : Nat} {s t : Text} :
    Stays depth (s ++ t) ↔
      Stays depth s ∧ Stays (depth + s.count '\x7b' - s.count '\x7d') t := by
  induction s generalizing depth with
  | nil =>
    have empty : Stays depth [] := alternatives_eq_none_iff.mp rfl
    simp [empty]
  | cons c s ih =>
    rw [List.cons_append, stays_cons, stays_cons, ih, and_assoc]
    refine and_congr_right fun open_ => ?_
    have counts := count_behind open_ s
    rw [show depthBehind c depth + s.count '\x7b' - s.count '\x7d' =
      depth + (c :: s).count '\x7b' - (c :: s).count '\x7d' by omega]

theorem Balanced.append {s t : Text} (first : Balanced s) (second : Balanced t) :
    Balanced (s ++ t) := by
  refine ⟨stays_append_iff.mpr ⟨first.stays, ?_⟩, ?_⟩
  · rw [first.ends, Nat.zero_add, Nat.sub_self]
    exact second.stays
  · rw [List.count_append, List.count_append, first.ends, second.ends]

theorem Fits.balanced {item : Text} (fits : Fits 0 item) : Balanced item := (fits_zero_iff.mp fits).1

/-- Braces are opened and closed equally often in alternatives. -/
theorem count_joinWith {items : List Text} (fits : ∀ item ∈ items, Fits 0 item) :
    (joinWith [','] items).count '\x7d' = (joinWith [','] items).count '\x7b' := by
  induction items with
  | nil => rfl
  | cons first rest ih =>
    obtain ⟨one, others⟩ := List.forall_mem_cons.mp fits
    have ends := one.balanced.ends
    cases rest with
    | nil => exact ends
    | cons second rest =>
      have later := ih others
      rw [joinWith_cons_cons, List.count_append, List.count_append, List.count_append,
        List.count_append, ends, later]
      rfl

theorem sublist_joinWith (separator : Text) {items : List Text} {item : Text}
    (inside : item ∈ items) : item.Sublist (joinWith separator items) := by
  induction items with
  | nil => cases inside
  | cons first rest ih =>
    cases rest with
    | nil =>
      rw [List.mem_singleton.mp inside]
      exact List.Sublist.refl _
    | cons second rest =>
      rw [joinWith_cons_cons, List.append_assoc]
      rcases List.mem_cons.mp inside with rfl | inside
      · exact List.sublist_append_left _ _
      · exact (ih inside).trans ((List.sublist_append_right _ _).trans
          (List.sublist_append_right _ _))

section
variable {before inside after : Text} {items : List Text}

/-- In front of the first brace of a balanced text no brace is closed. -/
theorem Balanced.front (plain : '\x7b' ∉ before) {rest : Text} (balanced : Balanced (before ++ rest)) :
    Balanced before ∧ Balanced rest := by
  obtain ⟨stays, behind⟩ := stays_append_iff.mp balanced.stays
  have opened := List.count_eq_zero.mpr plain
  have closed := stays before List.prefix_rfl
  have ends := balanced.ends
  rw [List.count_append, List.count_append] at ends
  have front : before.count '\x7d' = before.count '\x7b' := by omega
  rw [front, Nat.zero_add, Nat.sub_self] at behind
  exact ⟨⟨stays, front⟩, ⟨behind, by omega⟩⟩

/-- Behind the first group of a balanced text the rest is balanced. -/
theorem Balanced.back (fits : ∀ item ∈ items, Fits 0 item)
    (balanced : Balanced ('\x7b' :: (joinWith [','] items ++ '\x7d' :: after))) :
    Balanced after := by
  have group := count_joinWith fits
  have ends := balanced.ends
  simp only [List.count_cons, List.count_append] at ends
  obtain ⟨-, stays⟩ := stays_cons.mp balanced.stays
  obtain ⟨-, stays⟩ := stays_append_iff.mp stays
  rw [group, Nat.add_sub_cancel] at stays
  refine ⟨(stays_cons.mp stays).2, ?_⟩
  simp [group] at ends
  omega

/-- The first group of a balanced text is closed. -/
theorem Balanced.closed (plain : '\x7b' ∉ before)
    (balanced : Balanced (before ++ '\x7b' :: inside)) : alternatives 0 inside ≠ none := by
  intro open_
  have ends := (balanced.front plain).2.ends
  have stays := alternatives_eq_none_iff.mp open_ inside List.prefix_rfl
  simp only [List.count_cons] at ends
  simp at ends
  omega

/-- An alternative in the place of the first group of a balanced text leaves it balanced. -/
theorem Balanced.choose (plain : '\x7b' ∉ before)
    (read : alternatives 0 inside = some (items, after))
    (balanced : Balanced (before ++ '\x7b' :: inside)) {item : Text} (one : item ∈ items) :
    Balanced (before ++ item ++ after) := by
  obtain ⟨first, rest, rfl, fits, others, rfl⟩ := exists_of_alternatives read
  have each : ∀ item ∈ first :: rest, Fits 0 item := List.forall_mem_cons.mpr ⟨fits, others⟩
  obtain ⟨front, group⟩ := balanced.front plain
  exact (front.append (each item one).balanced).append (group.back each)

variable (before) in
/-- An alternative in the place of a group leaves fewer braces to expand. -/
theorem count_choose_lt (read : alternatives 0 inside = some (items, after)) {item : Text}
    (one : item ∈ items) :
    (before ++ item ++ after).count '\x7b' < (before ++ '\x7b' :: inside).count '\x7b' := by
  obtain ⟨first, rest, rfl, -, -, rfl⟩ := exists_of_alternatives read
  have fewer := (sublist_joinWith [','] one).count_le '\x7b'
  simp only [List.count_append, List.count_cons, beq_self_eq_true, if_true]
  omega

end

/-! ## Expansion -/

private theorem span_plain {pattern : Text} (plain : '\x7b' ∉ pattern) :
    pattern.span (· ≠ '\x7b') = (pattern, []) := by
  have all := decide_ne_of_notMem plain
  rw [List.span_eq_takeWhile_dropWhile, List.takeWhile_eq_self_iff.mpr all,
    List.dropWhile_eq_nil_iff.mpr all]

private theorem span_group {before : Text} (plain : '\x7b' ∉ before) (inside : Text) :
    (before ++ '\x7b' :: inside).span (· ≠ '\x7b') = (before, '\x7b' :: inside) := by
  have all := decide_ne_of_notMem plain
  rw [List.span_eq_takeWhile_dropWhile, List.takeWhile_append_of_pos all,
    List.dropWhile_append_of_pos all]
  simp

theorem expandFirst_plain (count : Nat) {pattern : Text} (plain : '\x7b' ∉ pattern) :
    expandFirst count pattern = [pattern] := by
  cases count with
  | zero => rfl
  | succ count => rw [expandFirst, span_plain plain]

theorem expandFirst_group (count : Nat) {before : Text} (plain : '\x7b' ∉ before) (inside : Text) :
    expandFirst (count + 1) (before ++ '\x7b' :: inside) =
      match alternatives 0 inside with
      | none => [before ++ '\x7b' :: inside]
      | some (items, after) =>
        items.flatMap fun item => expandFirst count (before ++ item ++ after) := by
  cases read : alternatives 0 inside <;> simp only [expandFirst, span_group plain, read]

/-- As many rounds as there are opening braces are enough. -/
theorem expandFirst_eq {count : Nat} {pattern : Text} (enough : pattern.count '\x7b' ≤ count) :
    expandFirst count pattern = expand pattern := by
  suffices same : ∀ count count' pattern, pattern.count '\x7b' ≤ count →
      pattern.count '\x7b' ≤ count' → expandFirst count pattern = expandFirst count' pattern from
    same _ _ _ enough (Nat.le_refl _)
  intro count
  induction count with
  | zero =>
    intro count' pattern none _
    have plain := List.count_eq_zero.mp (Nat.le_zero.mp none)
    rw [expandFirst_plain _ plain, expandFirst_plain _ plain]
  | succ count ih =>
    intro count' pattern enough enough'
    by_cases plain : '\x7b' ∈ pattern
    · obtain ⟨before, inside, rfl, first⟩ := List.eq_append_cons_of_mem plain
      cases count' with
      | zero => simp at enough'
      | succ count' =>
        rw [expandFirst_group _ first, expandFirst_group _ first]
        cases read : alternatives 0 inside with
        | none => rfl
        | some found =>
          obtain ⟨items, after⟩ := found
          refine List.flatMap_congr fun item one => ih _ _ ?_ ?_
          · have := count_choose_lt before read one
            omega
          · have := count_choose_lt before read one
            omega
    · rw [expandFirst_plain _ plain, expandFirst_plain _ plain]

theorem expand_plain {pattern : Text} (plain : '\x7b' ∉ pattern) : expand pattern = [pattern] :=
  expandFirst_plain _ plain

/-- The alternatives of the first group are put in its place one after another, and expanded. -/
theorem expand_group {before : Text} (plain : '\x7b' ∉ before) (inside : Text) :
    expand (before ++ '\x7b' :: inside) =
      match alternatives 0 inside with
      | none => [before ++ '\x7b' :: inside]
      | some (items, after) => items.flatMap fun item => expand (before ++ item ++ after) := by
  have count : (before ++ '\x7b' :: inside).count '\x7b' =
      before.count '\x7b' + inside.count '\x7b' + 1 := by
    rw [List.count_append, List.count_cons_self, Nat.add_assoc]
  rw [expand, count, expandFirst_group _ plain]
  cases read : alternatives 0 inside with
  | none => rfl
  | some found =>
    obtain ⟨items, after⟩ := found
    refine List.flatMap_congr fun item one => expandFirst_eq ?_
    have := count_choose_lt before read one
    omega

/-- A group stands for its alternatives one after another, each with what is behind the group. -/
theorem expand_alternatives {items : List Text} (some : items ≠ [])
    (fits : ∀ item ∈ items, Balanced item ∧ InnerCommas item) (back : Text) :
    expand ('\x7b' :: joinWith [','] items ++ '\x7d' :: back) =
      items.flatMap fun item => expand (item ++ back) := by
  obtain ⟨first, rest, rfl⟩ := List.exists_cons_of_ne_nil some
  obtain ⟨one, others⟩ := List.forall_mem_cons.mp fun item inside =>
    fits_zero_iff.mpr (fits item inside)
  have group := expand_group (List.not_mem_nil : '\x7b' ∉ ([] : Text))
    (joinWith [','] (first :: rest) ++ '\x7d' :: back)
  rw [alternatives_joinWith one others] at group
  simpa using group

/-- What holds of patterns without groups, and of a pattern if it holds with each alternative of its
first group in the place of the group, holds of all patterns. -/
@[elab_as_elim]
theorem expand_induction {motive : Text → Prop}
    (plain : ∀ pattern, '\x7b' ∉ pattern → motive pattern)
    (unclosed : ∀ before inside, '\x7b' ∉ before → alternatives 0 inside = none →
      motive (before ++ '\x7b' :: inside))
    (group : ∀ before inside items after, '\x7b' ∉ before →
      alternatives 0 inside = some (items, after) →
      (∀ item ∈ items, motive (before ++ item ++ after)) → motive (before ++ '\x7b' :: inside))
    (pattern : Text) : motive pattern := by
  induction count : pattern.count '\x7b' using Nat.strong_induction_on generalizing pattern with
  | _ n ih =>
    subst count
    by_cases opened : '\x7b' ∈ pattern
    · obtain ⟨before, inside, rfl, first⟩ := List.eq_append_cons_of_mem opened
      cases read : alternatives 0 inside with
      | none => exact unclosed before inside first read
      | some found =>
        exact group before inside found.1 found.2 first read fun item one =>
          ih _ (count_choose_lt before read one) _ rfl
    · exact plain pattern opened

/-! ## Products -/

theorem expand_append_plain {front : Text} (plain : '\x7b' ∉ front) (pattern : Text) :
    expand (front ++ pattern) = (expand pattern).map (front ++ ·) := by
  have clean {before : Text} (first : '\x7b' ∉ before) : '\x7b' ∉ front ++ before := by
    simp [plain, first]
  induction pattern using expand_induction with
  | plain pattern none => rw [expand_plain (clean none), expand_plain none, List.map_singleton]
  | unclosed before inside first read =>
    have alone := expand_group first inside
    have together := expand_group (clean first) inside
    rw [read] at alone together
    rw [alone, List.map_singleton, ← List.append_assoc, together]
  | group before inside items after first read ih =>
    rw [← List.append_assoc, expand_group (clean first), expand_group first, read]
    dsimp only
    rw [List.map_flatMap]
    refine List.flatMap_congr fun item one => ?_
    rw [← ih item one, List.append_assoc, List.append_assoc, List.append_assoc]

/-- What a balanced pattern stands for goes on with all that the pattern behind it stands for. -/
theorem expand_append {front : Text} (balanced : Balanced front) (pattern : Text) :
    expand (front ++ pattern) =
      (expand front).flatMap fun start => (expand pattern).map (start ++ ·) := by
  induction front using expand_induction with
  | plain front none =>
    rw [expand_plain none, List.flatMap_singleton, expand_append_plain none]
  | unclosed before inside first read => exact absurd read (balanced.closed first)
  | group before inside items after first read ih =>
    have together : alternatives 0 (inside ++ pattern) = some (items, after ++ pattern) := by
      obtain ⟨_, rest, rfl, fits, others, rfl⟩ := exists_of_alternatives read
      rw [List.append_assoc]
      exact alternatives_joinWith fits others (after ++ pattern)
    rw [List.append_assoc, List.cons_append, expand_group first, expand_group first, read,
      together]
    dsimp only
    rw [List.flatMap_assoc]
    refine List.flatMap_congr fun item one => ?_
    rw [← ih item one (balanced.choose first read one), List.append_assoc, List.append_assoc,
      List.append_assoc]

theorem braces_notMem_of_mem_expand {pattern : Text} (balanced : Balanced pattern) :
    ∀ found ∈ expand pattern, '\x7b' ∉ found ∧ '\x7d' ∉ found := by
  induction pattern using expand_induction with
  | plain pattern none =>
    intro found inside
    rw [expand_plain none] at inside
    rw [List.mem_singleton.mp inside]
    refine ⟨none, List.count_eq_zero.mp ?_⟩
    rw [balanced.ends, List.count_eq_zero.mpr none]
  | unclosed before inside first read => exact absurd read (balanced.closed first)
  | group before inside items after first read ih =>
    intro found inside
    rw [expand_group first, read] at inside
    obtain ⟨item, one, inside⟩ := List.mem_flatMap.mp inside
    exact ih item one (balanced.choose first read one) found inside

/-- Expansion puts alternatives in the place of groups until none is left, which ends because braces
become fewer. It is a product over balanced patterns side by side and a sum over alternatives. -/
theorem expand_is_product :
    (∀ before inside, '\x7b' ∉ before →
      (∀ items after, alternatives 0 inside = some (items, after) → ∀ item ∈ items,
        (before ++ item ++ after).count '\x7b' < (before ++ '\x7b' :: inside).count '\x7b') ∧
      expand (before ++ '\x7b' :: inside) =
        match alternatives 0 inside with
        | none => [before ++ '\x7b' :: inside]
        | some (items, after) => items.flatMap fun item => expand (before ++ item ++ after)) ∧
    (∀ front pattern, Balanced front → expand (front ++ pattern) =
      (expand front).flatMap fun start => (expand pattern).map (start ++ ·)) ∧
    (∀ items, items ≠ [] → (∀ item ∈ items, Balanced item ∧ InnerCommas item) →
      expand ('\x7b' :: joinWith [','] items ++ ['\x7d']) = items.flatMap expand) ∧
    (∀ pattern, '\x7b' ∉ pattern → expand pattern = [pattern]) ∧
    (∀ before inside, '\x7b' ∉ before →
      (∀ start, start <+: inside → start.count '\x7d' ≤ start.count '\x7b') →
        expand (before ++ '\x7b' :: inside) = [before ++ '\x7b' :: inside]) ∧
    (∀ pattern, Balanced pattern → ∀ found ∈ expand pattern, '\x7b' ∉ found ∧ '\x7d' ∉ found) := by
  refine ⟨fun before inside plain => ⟨fun items after read item => count_choose_lt before read,
    expand_group plain inside⟩, fun front pattern balanced => expand_append balanced pattern, ?_,
    fun pattern => expand_plain, ?_, fun pattern => braces_notMem_of_mem_expand⟩
  · intro items some each
    simpa using expand_alternatives some each []
  · intro before inside plain stays
    have read : alternatives 0 inside = none := by
      refine alternatives_eq_none_iff.mpr fun start begins => ?_
      rw [Nat.zero_add]
      exact stays start begins
    rw [expand_group plain, read]

/-- Alternatives of which one has a group of its own and one is empty. -/
def nestedItems : List Text := ["b".toList, "c\x7bd,e\x7d".toList, []]

theorem expand_is_product_nested :
    nestedItems ≠ [] ∧ (∀ item ∈ nestedItems, Balanced item ∧ InnerCommas item) ∧
      Balanced "\x7ba,b\x7d/".toList ∧ '\x7b' ∉ "x".toList ∧
      (∀ start, start <+: "a,\x7bb\x7d".toList → start.count '\x7d' ≤ start.count '\x7b') ∧
      expand ('\x7b' :: joinWith [','] nestedItems ++ ['\x7d']) = nestedItems.flatMap expand ∧
      expand ("\x7ba,b\x7d/".toList ++ "\x7bc,d\x7d\x7b".toList) =
        ((expand "\x7ba,b\x7d/".toList).flatMap fun start =>
          (expand "\x7bc,d\x7d\x7b".toList).map (start ++ ·)) ∧
      expand ("x".toList ++ '\x7b' :: "a,\x7bb\x7d".toList) = ["x\x7ba,\x7bb\x7d".toList] ∧
      ∀ found ∈ expand "\x7ba,b\x7d/".toList, '\x7b' ∉ found ∧ '\x7d' ∉ found := by
  have each : ∀ item ∈ nestedItems, Balanced item ∧ InnerCommas item := by
    have fits : ∀ item ∈ nestedItems, Fits 0 item := by decide
    exact fun item one => fits_zero_iff.mp (fits item one)
  have open_ : ∀ start, start <+: "a,\x7bb\x7d".toList →
      start.count '\x7d' ≤ start.count '\x7b' := by
    have stays : Stays 0 "a,\x7bb\x7d".toList := by decide
    intro start begins
    have := stays start begins
    omega
  have balanced : Balanced "\x7ba,b\x7d/".toList := by decide
  obtain ⟨-, product, sum, -, unclosed, clean⟩ := expand_is_product
  exact ⟨by decide, each, balanced, by decide, open_, sum _ (by decide) each,
    product _ _ balanced, unclosed _ _ (by decide) open_, clean _ balanced⟩

end LocaleLint.Braces
