import Mathlib
import LocaleLint.Language.NameLine
import LocaleLint.Proofs.Text.Lines

/-!
# Uses of names

A search for a name cuts the text at boundaries only and ends at the first place where the name
stands in quotes in front of a colon.
-/

namespace LocaleLint

namespace Text

theorem dropBytes?_utf8Length (before after : Text) :
    dropBytes? (utf8Length before) (before ++ after) = some after := by
  rw [dropBytes?, splitAtByte_utf8Length, Option.map_some]

theorem startsWith_iff {start s : Text} :
    startsWith start s = true ↔ ∃ rest, s = start ++ rest := by
  simp only [startsWith, Option.isSome_iff_exists, dropPrefix?_eq_some]

/-- A word that is not found stands nowhere. -/
theorem ne_of_offsetOf?_eq_none {word s : Text} (none : offsetOf? word s = none)
    (front rest : Text) : s ≠ front ++ word ++ rest := by
  induction s generalizing front with
  | nil =>
    intro same
    have empty : word = [] := by simp_all
    simp [offsetOf?, empty] at none
  | cons c s ih =>
    rw [offsetOf?] at none
    split at none
    · cases none
    · next other =>
      intro same
      cases front with
      | nil => exact other (startsWith_iff.mpr ⟨rest, same⟩)
      | cons d front => exact ih (Option.map_eq_none_iff.mp none) front (List.cons.inj same).2

/-- A word is found where it stands first. -/
theorem exists_of_offsetOf? {word s : Text} {n : Nat} (found : offsetOf? word s = some n) :
    ∃ front rest, s = front ++ word ++ rest ∧ n = utf8Length front ∧
      ∀ front' rest', s = front' ++ word ++ rest' → front.length ≤ front'.length := by
  induction s generalizing n with
  | nil =>
    rw [offsetOf?] at found
    split at found
    · next empty =>
      cases found
      exact ⟨[], [], by simpa using (List.isEmpty_iff.mp empty).symm, rfl,
        fun _ _ _ => Nat.zero_le _⟩
    · cases found
  | cons c s ih =>
    rw [offsetOf?] at found
    split at found
    · next here =>
      cases found
      obtain ⟨rest, same⟩ := startsWith_iff.mp here
      exact ⟨[], rest, same, rfl, fun _ _ _ => Nat.zero_le _⟩
    · next other =>
      obtain ⟨m, later, rfl⟩ := Option.map_eq_some_iff.mp found
      obtain ⟨front, rest, rfl, rfl, first⟩ := ih later
      refine ⟨c :: front, rest, rfl, rfl, fun front' rest' same => ?_⟩
      cases front' with
      | nil => exact absurd (startsWith_iff.mpr ⟨rest', same⟩) other
      | cons d front' =>
        exact Nat.succ_le_succ (first front' rest' (List.cons.inj same).2)

end Text

namespace NameLine

open Text (utf8Length splitOn)

/-- A name is used as that of a member between two parts of a text: it stands there in quotes, and a
colon follows, maybe behind white space. -/
structure IsUse (name text front behind : Text) : Prop where
  split : text = front ++ quoted name ++ behind
  colon : ∃ gap rest, behind = gap ++ ':' :: rest ∧ ∀ c ∈ gap, Text.isWhite c = true

/-- The use of a name that starts before all others. -/
structure IsFirstUse (name text front behind : Text) : Prop extends
    IsUse name text front behind where
  first : ∀ front' behind', IsUse name text front' behind' → front.length ≤ front'.length

theorem colonFollows_iff {behind : Text} : colonFollows behind = true ↔
    ∃ gap rest, behind = gap ++ ':' :: rest ∧ ∀ c ∈ gap, Text.isWhite c = true := by
  rw [colonFollows, decide_eq_true_eq, Text.trimStart]
  constructor
  · intro head
    obtain ⟨rest, split⟩ := List.head?_eq_some_iff.mp head
    refine ⟨behind.takeWhile Text.isWhite, rest, ?_, fun c inside => List.mem_takeWhile_imp inside⟩
    rw [← split, List.takeWhile_append_dropWhile]
  · rintro ⟨gap, rest, rfl, white⟩
    rw [List.dropWhile_append_of_pos white]
    rfl

theorem utf8Length_quote : utf8Length ['"'] = 1 := rfl

/-- If no colon follows the first quoted name, its uses start one character later at least. -/
theorem IsUse.behind {name text front rest : Text} (split : text = front ++ quoted name ++ rest)
    (first : ∀ front' rest', text = front' ++ quoted name ++ rest' → front.length ≤ front'.length)
    (plain : colonFollows rest = false) {front' rest' : Text} (use : IsUse name text front' rest') :
    ∃ later, front' = front ++ '"' :: later ∧ IsUse name (name ++ '"' :: rest) later rest' := by
  have before : front <+: text := ⟨quoted name ++ rest, by rw [split, List.append_assoc]⟩
  have before' : front' <+: text := ⟨quoted name ++ rest', by rw [use.split, List.append_assoc]⟩
  obtain ⟨middle, rfl⟩ := List.prefix_of_prefix_length_le before before' (first _ _ use.split)
  have same : quoted name ++ rest = middle ++ quoted name ++ rest' := by
    refine @List.append_cancel_left _ front _ _ ?_
    rw [← List.append_assoc, ← split, use.split]
    simp only [List.append_assoc]
  cases middle with
  | nil =>
    have equal : rest = rest' := List.append_cancel_left same
    rw [equal, colonFollows_iff.mpr use.colon] at plain
    cases plain
  | cons c later =>
    obtain ⟨rfl, onward⟩ := List.cons.inj same
    exact ⟨later, rfl, by simpa using onward, use.colon⟩

/-- A use of a name behind a character is a use in the whole text. -/
theorem IsUse.append {name text before rest : Text} (use : IsUse name text before rest)
    (front : Text) : IsUse name (front ++ text) (front ++ before) rest :=
  ⟨by simp only [use.split, List.append_assoc], use.colon⟩

/-- A search ends where the pattern does not occur any more. -/
theorem seek_none {pattern front text : Text} (none : Text.offsetOf? pattern text = none) :
    seek pattern (front ++ text) (utf8Length front) = .ok Option.none := by
  have start := Text.dropBytes?_utf8Length front text
  rw [seek]
  split
  · next cut => cases start.symm.trans cut
  · next rest cut =>
    cases start.symm.trans cut
    rw [none]

/-- Where the pattern occurs behind `before`, one round of a search ends it, or it goes on from the
second byte of the pattern on. -/
theorem seek_some {pattern front before rest : Text}
    (found : Text.offsetOf? pattern (before ++ pattern ++ rest) = some (utf8Length before)) :
    seek pattern (front ++ (before ++ pattern ++ rest)) (utf8Length front) =
      if colonFollows rest then .ok (some (utf8Length (front ++ before ++ pattern)))
      else
        seek pattern (front ++ (before ++ pattern ++ rest)) (utf8Length (front ++ before) + 1) := by
  have start := Text.dropBytes?_utf8Length front (before ++ pattern ++ rest)
  have stop := Text.dropBytes?_utf8Length (front ++ before ++ pattern) rest
  simp only [List.append_assoc, Text.utf8Length_append, ← Nat.add_assoc] at start stop found ⊢
  rw [seek]
  split
  · next cut => cases start.symm.trans cut
  · next text cut =>
    cases start.symm.trans cut
    rw [found]
    dsimp only
    rw [stop]

/-- A search from a boundary on never has to cut a character. It ends at the first use of the name,
or there is none. -/
theorem seek_boundary (name front text : Text) :
    (∃ before rest, IsFirstUse name text before rest ∧
      seek (quoted name) (front ++ text) (utf8Length front) =
        .ok (some (utf8Length (front ++ before ++ quoted name)))) ∨
    ((∀ before rest, ¬ IsUse name text before rest) ∧
      seek (quoted name) (front ++ text) (utf8Length front) = .ok none) := by
  -- The search starts again behind the quote of a name that is not used, which is a boundary too.
  induction size : text.length using Nat.strong_induction_on generalizing front text with
  | _ n ih =>
    cases found : Text.offsetOf? (quoted name) text with
    | none =>
      exact .inr ⟨fun _ _ use => Text.ne_of_offsetOf?_eq_none found _ _ use.split, seek_none found⟩
    | some skipped =>
      obtain ⟨before, rest, rfl, rfl, first⟩ := Text.exists_of_offsetOf? found
      have round := @seek_some _ front _ _ found
      cases colon : colonFollows rest with
      | true =>
        rw [colon, if_pos rfl] at round
        exact .inl ⟨before, rest, ⟨⟨rfl, colonFollows_iff.mp colon⟩,
          fun _ _ use => first _ _ use.split⟩, round⟩
      | false =>
        have later {front' rest' : Text} :=
          @IsUse.behind name _ before rest rfl first colon front' rest'
        have split : before ++ quoted name ++ rest = before ++ ['"'] ++ (name ++ '"' :: rest) := by
          simp [quoted]
        have shorter : (name ++ '"' :: rest).length < n := by
          rw [← size]
          simp [quoted]
          omega
        have boundary : utf8Length (front ++ before) + 1 =
            utf8Length (front ++ (before ++ ['"'])) := by
          simp [utf8Length_quote, Nat.add_assoc]
        rw [colon, if_neg Bool.false_ne_true, boundary, split, ← List.append_assoc front] at round
        rw [split] at later ⊢
        rw [← List.append_assoc front, round]
        rcases ih _ shorter (front ++ (before ++ ['"'])) _ rfl with
          ⟨skipped, behind, use, searched⟩ | ⟨unused, searched⟩
        · refine .inl ⟨before ++ ['"'] ++ skipped, behind, ⟨use.toIsUse.append _, ?_⟩, ?_⟩
          · intro front' rest' other
            obtain ⟨skipped', rfl, inner⟩ := later other
            simpa using use.first skipped' rest' inner
          · rw [searched]
            simp only [List.append_assoc]
        · refine .inr ⟨fun front' rest' other => ?_, searched⟩
          obtain ⟨skipped', -, inner⟩ := later other
          exact unused skipped' rest' inner

theorem IsFirstUse.unique {name text front rest front' rest' : Text}
    (use : IsFirstUse name text front rest) (use' : IsFirstUse name text front' rest') :
    front = front' ∧ rest = rest' := by
  have split : front ++ (quoted name ++ rest) = front' ++ (quoted name ++ rest') := by
    simpa only [List.append_assoc] using use.split.symm.trans use'.split
  have size : front.length = front'.length :=
    Nat.le_antisymm (use.first _ _ use'.toIsUse) (use'.first _ _ use.toIsUse)
  obtain ⟨rfl, onward⟩ := List.append_inj split size
  exact ⟨rfl, List.append_cancel_left onward⟩

/-- From a boundary on the first use of a name is found, if there is one. -/
theorem find?_boundary (before text name : Text) :
    (∃ front rest, IsFirstUse name text front rest ∧
      find? (before ++ text) (utf8Length before) name =
        some (utf8Length (before ++ front ++ quoted name))) ∨
    ((∀ front rest, ¬ IsUse name text front rest) ∧
      find? (before ++ text) (utf8Length before) name = none) := by
  have whole := seek_boundary name [] text
  rw [List.nil_append, utf8Length] at whole
  rcases whole with ⟨front, rest, use, searched⟩ | ⟨unused, searched⟩
  · refine .inl ⟨front, rest, use, ?_⟩
    simp [find?, Text.dropBytes?_utf8Length, searched, Except.toOption]
  · refine .inr ⟨unused, ?_⟩
    simp [find?, Text.dropBytes?_utf8Length, searched, Except.toOption]

/-- The search for a name from any boundary on. It never has to cut a text inside of a character; it
gives the offset behind the use of the name that starts first, and finds nothing exactly if the name
is not used. The line of a key that is made of such offsets is one of the lines of the text. -/
theorem find?_exact (before text name : Text) :
    (∃ found, seek (quoted name) text 0 = .ok found ∧
      find? (before ++ text) (utf8Length before) name = found.map (utf8Length before + ·)) ∧
    (∀ stop, find? (before ++ text) (utf8Length before) name = some stop ↔
      ∃ front rest, IsFirstUse name text front rest ∧
        stop = utf8Length (before ++ front ++ quoted name)) ∧
    (find? (before ++ text) (utf8Length before) name = none ↔
      ∀ front rest, ¬ IsUse name text front rest) ∧
    ∀ key, 1 ≤ lineOf (before ++ text) (LineIndex.ofText (before ++ text)) key ∧
      lineOf (before ++ text) (LineIndex.ofText (before ++ text)) key ≤
        (splitOn '\n' (before ++ text)).length := by
  refine ⟨?_, ?_, ?_, fun key => LineIndex.line_bounds _ _⟩
  · have whole := seek_boundary name [] text
    rw [List.nil_append, utf8Length] at whole
    have cut := Text.dropBytes?_utf8Length before text
    rcases whole with ⟨_, _, -, searched⟩ | ⟨-, searched⟩
    · exact ⟨_, searched, by simp [find?, cut, searched, Except.toOption]⟩
    · exact ⟨_, searched, by simp [find?, cut, searched, Except.toOption]⟩
  · intro stop
    rcases find?_boundary before text name with ⟨front, rest, use, found⟩ | ⟨unused, found⟩
    · rw [found, Option.some_inj]
      constructor
      · rintro rfl
        exact ⟨front, rest, use, rfl⟩
      · rintro ⟨front', rest', use', rfl⟩
        rw [(use.unique use').1]
    · rw [found]
      constructor
      · intro same
        cases same
      · rintro ⟨front, rest, use, -⟩
        exact absurd use.toIsUse (unused front rest)
  · rcases find?_boundary before text name with ⟨front, rest, use, found⟩ | ⟨unused, found⟩
    · rw [found]
      constructor
      · intro same
        cases same
      · intro unused
        exact absurd use.toIsUse (unused front rest)
    · exact ⟨fun _ => unused, fun _ => found⟩

end NameLine

end LocaleLint
