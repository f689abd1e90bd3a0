import Mathlib
import LocaleLint.Proofs.Text.Splitting
import LocaleLint.Text.Lines

/-!
# Places in a text

The line of an offset counts the line feeds in front of it, the line and the column of a boundary
give its offset back, and the lines are what stands between the line feeds.
-/

namespace LocaleLint

namespace Text

/-! ## Bytes -/

def bytes (s : Text) : List UInt8 := s.flatMap String.utf8EncodeChar

def lineFeedByte : UInt8 := 0x0A

theorem bytes_cons (c : Char) (s : Text) :
    bytes (c :: s) = String.utf8EncodeChar c ++ bytes s := List.flatMap_cons

theorem bytes_append (s t : Text) : bytes (s ++ t) = bytes s ++ bytes t := List.flatMap_append

theorem length_bytes (s : Text) : (bytes s).length = utf8Length s := by
  induction s with
  | nil => rfl
  | cons c s ih => rw [bytes_cons, List.length_append, String.length_utf8EncodeChar, ih, utf8Length]

/-- No other character has the byte of a line feed in it. -/
theorem lineFeedByte_notMem {c : Char} (other : c ≠ '\n') :
    lineFeedByte ∉ String.utf8EncodeChar c := by
  have value : c.val.toNat ≠ 10 := fun same => other (Char.ext (UInt32.toNat_inj.mp same))
  have apart (n : Nat) (differs : n % 256 ≠ 10) : lineFeedByte ≠ UInt8.ofNat n := by
    intro same
    have number := congrArg UInt8.toNat same
    rw [UInt8.toNat_ofNat'] at number
    exact differs number.symm
  rw [String.utf8EncodeChar]
  split_ifs
  all_goals simp only [List.mem_cons, List.not_mem_nil, or_false, not_or]
  · exact apart _ (by omega)
  · exact ⟨apart _ (by omega), apart _ (by omega)⟩
  · exact ⟨apart _ (by omega), apart _ (by omega), apart _ (by omega)⟩
  · exact ⟨apart _ (by omega), apart _ (by omega), apart _ (by omega), apart _ (by omega)⟩

theorem count_encoded (c : Char) :
    (String.utf8EncodeChar c).count lineFeedByte = if c = '\n' then 1 else 0 := by
  split
  · next feed =>
    rw [feed]
    rfl
  · next other => exact List.count_eq_zero_of_not_mem (lineFeedByte_notMem other)

theorem count_bytes (s : Text) : (bytes s).count lineFeedByte = s.count '\n' := by
  induction s with
  | nil => rfl
  | cons c s ih =>
    rw [bytes_cons, List.count_append, ih, count_encoded, List.count_cons, Nat.add_comm]
    simp only [beq_iff_eq]

/-- Whether an offset is in a text and not inside a character. -/
def IsBoundary (s : Text) (offset : Nat) : Prop :=
  ∃ before after, before ++ after = s ∧ utf8Length before = offset

theorem splitAtByte_utf8Length (before after : Text) :
    splitAtByte (utf8Length before) (before ++ after) = some (before, after) := by
  induction before with
  | nil => cases after <;> rfl
  | cons c before ih =>
    obtain ⟨n, next⟩ := Nat.exists_eq_add_of_lt c.utf8Size_pos
    rw [Nat.zero_add] at next
    have size : utf8Length (c :: before) = n + utf8Length before + 1 := by
      rw [utf8Length]
      omega
    have left : n + utf8Length before + 1 - c.utf8Size = utf8Length before := by omega
    rw [size, List.cons_append, splitAtByte, if_pos (by omega), left, ih]
    rfl

theorem slice_utf8Length (before part after : Text) :
    slice (utf8Length before) (utf8Length before + utf8Length part) (before ++ part ++ after) =
      some part := by
  rw [slice, if_pos (Nat.le_add_right _ _), List.append_assoc, splitAtByte_utf8Length]
  simp only [bind, Option.bind, Nat.add_sub_cancel_left, splitAtByte_utf8Length, pure]

/-- Whether a line starts behind a text. -/
def IsLineStart (before : Text) : Prop := before = [] ∨ before.getLast? = some '\n'

/-- Whether a line ends in front of a text. -/
def IsLineEnd (after : Text) : Prop := after = [] ∨ after.head? = some '\n'

theorem isLineStart_cons {c : Char} {s : Text} :
    IsLineStart (c :: s) ↔ IsLineStart s ∧ (s = [] → c = '\n') := by
  cases s with
  | nil => simp [IsLineStart]
  | cons d s => simp [IsLineStart, List.getLast?_cons_cons]

/-- A line that is not the first one starts behind a line feed. -/
theorem eq_nil_of_count {s : Text} (starts : IsLineStart s) (none : s.count '\n' = 0) : s = [] :=
  starts.resolve_right fun last => List.count_eq_zero.mp none (List.mem_of_getLast? last)

/-- A text is some lines and a part of the line behind them. -/
theorem exists_lines (s : Text) :
    ∃ lines part, s = lines ++ part ∧ IsLineStart lines ∧ '\n' ∉ part := by
  induction s using List.reverseRecOn with
  | nil => exact ⟨[], [], rfl, .inl rfl, List.not_mem_nil⟩
  | append_singleton s c ih =>
    by_cases feed : c = '\n'
    · exact ⟨s ++ [c], [], (List.append_nil _).symm, .inr (by simp [feed]), List.not_mem_nil⟩
    · obtain ⟨lines, part, rfl, starts, clean⟩ := ih
      refine ⟨lines, part ++ [c], List.append_assoc _ _ _, starts, ?_⟩
      simpa [clean] using fun same => feed same.symm

/-- A text is a part of a line and the lines behind it. -/
theorem exists_rest (s : Text) : ∃ part rest, s = part ++ rest ∧ '\n' ∉ part ∧ IsLineEnd rest := by
  induction s with
  | nil => exact ⟨[], [], rfl, List.not_mem_nil, .inl rfl⟩
  | cons c s ih =>
    by_cases feed : c = '\n'
    · exact ⟨[], c :: s, rfl, List.not_mem_nil, .inr (congrArg some feed)⟩
    · obtain ⟨part, rest, rfl, clean, ends⟩ := ih
      refine ⟨c :: part, rest, rfl, ?_, ends⟩
      simpa [clean] using fun same => feed same.symm

/-- Each part of a text between line feeds is a line. -/
theorem exists_of_splitOn {s part : Text} {n : Nat} (here : (splitOn '\n' s)[n]? = some part) :
    ∃ lines rest, s = lines ++ part ++ rest ∧ IsLineStart lines ∧ lines.count '\n' = n ∧
      '\n' ∉ part ∧ IsLineEnd rest := by
  induction s generalizing part n with
  | nil =>
    cases n with
    | zero =>
      cases here
      exact ⟨[], [], rfl, .inl rfl, rfl, List.not_mem_nil, .inl rfl⟩
    | succ n => cases here
  | cons c s ih =>
    by_cases feed : c = '\n'
    · rw [splitOn, if_pos feed] at here
      cases n with
      | zero =>
        cases here
        exact ⟨[], c :: s, rfl, .inl rfl, rfl, List.not_mem_nil, .inr (congrArg some feed)⟩
      | succ n =>
        obtain ⟨lines, rest, rfl, starts, count, clean, ends⟩ := ih here
        exact ⟨c :: lines, rest, rfl, isLineStart_cons.mpr ⟨starts, fun _ => feed⟩,
          by simp [feed, count], clean, ends⟩
    · obtain ⟨first, parts, split⟩ := List.exists_cons_of_ne_nil (splitOn_ne_nil '\n' s)
      rw [splitOn, if_neg feed, split] at here
      cases n with
      | zero =>
        cases here
        obtain ⟨lines, rest, same, starts, count, clean, ends⟩ := ih (congrArg (·[0]?) split)
        rw [eq_nil_of_count starts count] at same
        refine ⟨[], rest, congrArg (c :: ·) same, .inl rfl, rfl, ?_, ends⟩
        simpa [clean] using fun same => feed same.symm
      | succ n =>
        obtain ⟨lines, rest, rfl, starts, count, clean, ends⟩ :=
          ih (n := n + 1) ((congrArg (·[n + 1]?) split).trans here)
        have some : lines ≠ [] := by
          rintro rfl
          cases count
        exact ⟨c :: lines, rest, rfl, isLineStart_cons.mpr ⟨starts, fun none => absurd none some⟩,
          by simp [feed, count], clean, ends⟩

/-- There is one line more than line feeds. -/
theorem length_splitOn (separator : Char) (s : Text) :
    (splitOn separator s).length = s.count separator + 1 := by
  induction s with
  | nil => rfl
  | cons c s ih =>
    obtain ⟨first, parts, split⟩ := List.exists_cons_of_ne_nil (splitOn_ne_nil separator s)
    rw [split] at ih
    by_cases same : c = separator
    · rw [splitOn, if_pos same, split, List.length_cons, ih, same, List.count_cons_self]
    · rw [splitOn, if_neg same, split, List.count_cons_of_ne same]
      exact ih

theorem dropPrefix?_eq_some {start s rest : Text} :
    dropPrefix? start s = some rest ↔ s = start ++ rest := by
  induction start generalizing s with
  | nil => simp [dropPrefix?]
  | cons p start ih =>
    cases s with
    | nil => simp [dropPrefix?]
    | cons c s =>
      rw [dropPrefix?, List.cons_append, List.cons.injEq]
      by_cases same : p = c
      · simp [same, ih]
      · simp [same, Ne.symm same]

theorem dropSuffix?_eq_some {ending s front : Text} :
    dropSuffix? ending s = some front ↔ s = front ++ ending := by
  rw [dropSuffix?, Option.map_eq_some_iff]
  constructor
  · rintro ⟨rest, dropped, rfl⟩
    rw [← List.reverse_inj, dropPrefix?_eq_some.mp dropped]
    simp
  · rintro rfl
    exact ⟨front.reverse, dropPrefix?_eq_some.mpr (by simp), List.reverse_reverse front⟩

/-- A line without the carriage return that it may end in. -/
def withoutReturn (line : Text) : Text := (dropSuffix? ['\r'] line).getD line

theorem withoutReturn_of_ne {line : Text} (plain : line.getLast? ≠ some '\r') :
    withoutReturn line = line := by
  have none : dropSuffix? ['\r'] line = none := by
    rw [Option.eq_none_iff_forall_ne_some]
    intro front dropped
    rw [dropSuffix?_eq_some.mp dropped] at plain
    simp at plain
  rw [withoutReturn, none, Option.getD_none]

/-- A part of a line without a carriage return in it stays. -/
theorem prefix_withoutReturn {front part rest : Text} (plain : '\r' ∉ part) :
    part <+: (withoutReturn (front ++ part ++ rest)).drop front.length := by
  cases dropped : dropSuffix? ['\r'] (front ++ part ++ rest) with
  | none =>
    rw [withoutReturn, dropped, Option.getD_none, List.append_assoc, List.drop_left]
    exact List.prefix_append _ _
  | some line =>
    rw [withoutReturn, dropped, Option.getD_some]
    have split := dropSuffix?_eq_some.mp dropped
    cases rest using List.reverseRecOn with
    | nil =>
      cases part using List.reverseRecOn with
      | nil => exact List.nil_prefix
      | append_singleton part c =>
        rw [List.append_nil, ← List.append_assoc] at split
        have last := List.append_inj_right' split rfl
        cases last
        simp at plain
    | append_singleton rest c =>
      rw [← List.append_assoc] at split
      rw [← List.append_inj_left' split rfl, List.append_assoc, List.drop_left]
      exact List.prefix_append _ _

end Text

namespace LineIndex

open Text

/-! ## Starts of lines -/

theorem lt_of_mem_startsAfter {offset start : Nat} {s : Text} (inside : start ∈ startsAfter offset s) :
    offset < start := by
  induction s generalizing offset with
  | nil => cases inside
  | cons c s ih =>
    have size := c.utf8Size_pos
    rw [startsAfter] at inside
    split at inside
    · rcases List.mem_cons.mp inside with rfl | later
      · omega
      · have := ih later
        omega
    · have := ih inside
      omega

theorem length_startsAfter (offset : Nat) (s : Text) :
    (startsAfter offset s).length = s.count '\n' := by
  induction s generalizing offset with
  | nil => rfl
  | cons c s ih =>
    rw [startsAfter, List.count_cons]
    by_cases feed : c = '\n' <;> simp [feed, ih]

/-- The lines that have started at an offset are as many as the line feeds among the bytes in front of
it. -/
theorem countP_startsAfter (base offset : Nat) (s : Text) :
    (startsAfter base s).countP (· ≤ base + offset) =
      ((bytes s).take offset).count lineFeedByte := by
  induction s generalizing base offset with
  | nil => simp [startsAfter, bytes]
  | cons c s ih =>
    have size := String.length_utf8EncodeChar c
    rw [bytes_cons, startsAfter]
    by_cases behind : c.utf8Size ≤ offset
    · have onward := ih (base + c.utf8Size) (offset - c.utf8Size)
      rw [Nat.add_assoc, Nat.add_sub_cancel' behind] at onward
      rw [List.take_append, List.take_of_length_le (by omega), List.count_append, size,
        count_encoded, ← onward]
      split
      · rw [List.countP_cons_of_pos (by simpa using behind), Nat.add_comm]
      · rw [Nat.zero_add]
    · -- The offset is inside the character, or in front of it if it is a line feed.
      have none : (startsAfter (base + c.utf8Size) s).countP (· ≤ base + offset) = 0 := by
        rw [List.countP_eq_zero]
        intro start inside
        have := lt_of_mem_startsAfter inside
        simp only [decide_eq_true_eq]
        omega
      rw [List.take_append_of_le_length (by omega)]
      by_cases feed : c = '\n'
      · have first : offset = 0 := by
          have : c.utf8Size = 1 := by rw [feed]; rfl
          omega
        rw [if_pos feed, List.countP_cons_of_neg (by simpa using behind), none, first]
        rfl
      · rw [if_neg feed, none, List.count_eq_zero_of_not_mem]
        exact fun inside => lineFeedByte_notMem feed (List.mem_of_mem_take inside)

/-- The line of an offset is one more than the line feeds in front of it. -/
theorem line_ofText (content : Text) (offset : Nat) :
    (ofText content).line offset = ((bytes content).take offset).count lineFeedByte + 1 := by
  have later := countP_startsAfter 0 offset content
  rw [Nat.zero_add] at later
  rw [line, ofText, List.countP_cons_of_pos (by simp), later]

theorem line_utf8Length (before after : Text) :
    (ofText (before ++ after)).line (utf8Length before) = before.count '\n' + 1 := by
  rw [line_ofText, bytes_append, ← length_bytes, List.take_left, count_bytes]

theorem length_starts (content : Text) :
    (ofText content).starts.length = content.count '\n' + 1 :=
  congrArg (· + 1) (length_startsAfter 0 content)

/-- The line of an offset is one of the lines of the text. -/
theorem line_bounds (content : Text) (offset : Nat) :
    1 ≤ (ofText content).line offset ∧
      (ofText content).line offset ≤ (splitOn '\n' content).length := by
  have some : 0 < (ofText content).line offset := List.countP_pos_iff.mpr
    ⟨0, List.mem_cons_self, decide_eq_true (Nat.zero_le offset)⟩
  refine ⟨some, ?_⟩
  rw [length_splitOn, ← length_starts]
  exact List.countP_le_length

/-- The start of the line behind some lines. -/
theorem starts_ofText {lines : Text} (starts : IsLineStart lines) (rest : Text) :
    (ofText (lines ++ rest)).starts[lines.count '\n']? = some (utf8Length lines) := by
  have behind (offset : Nat) : (offset :: startsAfter offset (lines ++ rest))[lines.count '\n']? =
      some (offset + utf8Length lines) := by
    induction lines generalizing offset with
    | nil => rfl
    | cons c lines ih =>
      obtain ⟨starts, first⟩ := isLineStart_cons.mp starts
      have onward := ih starts (offset + c.utf8Size)
      rw [Nat.add_assoc] at onward
      rw [List.cons_append, startsAfter, utf8Length, ← onward]
      by_cases feed : c = '\n'
      · rw [if_pos feed, feed, List.count_cons_self, List.getElem?_cons_succ]
      · -- The line starts behind a later line feed.
        obtain ⟨n, count⟩ : ∃ n, lines.count '\n' = n + 1 :=
          Nat.exists_eq_succ_of_ne_zero fun none => feed (first (eq_nil_of_count starts none))
        rw [if_neg feed, List.count_cons_of_ne feed, count, List.getElem?_cons_succ,
          List.getElem?_cons_succ]
  rw [← Nat.zero_add (utf8Length lines)]
  exact behind 0

/-! ## Lines and columns -/

/-- The line and the column of a boundary: the lines and the part of a line in front of it. -/
theorem lineCol_ofText {lines part : Text} (starts : IsLineStart lines) (clean : '\n' ∉ part)
    (after : Text) :
    (ofText (lines ++ part ++ after)).lineCol (lines ++ part ++ after)
        (utf8Length (lines ++ part)) =
      (lines.count '\n' + 1, part.length + 1) := by
  have line : (ofText (lines ++ part ++ after)).line (utf8Length (lines ++ part)) =
      lines.count '\n' + 1 := by
    rw [line_utf8Length, List.count_append, List.count_eq_zero_of_not_mem clean, Nat.add_zero]
  have start := starts_ofText starts (part ++ after)
  rw [← List.append_assoc] at start
  rw [lineCol, line, Nat.add_sub_cancel, List.getD_eq_getElem?_getD, start, Option.getD_some,
    utf8Length_append, slice_utf8Length]
  rfl

/-- A later boundary stands on a later line, or on the same line in a later column. -/
theorem lineCol_lt {content : Text} {offset offset' : Nat} (boundary : IsBoundary content offset)
    (boundary' : IsBoundary content offset') (before : offset < offset') :
    Prod.Lex (· < ·) (· < ·) ((ofText content).lineCol content offset)
      ((ofText content).lineCol content offset') := by
  obtain ⟨front, after, rfl, rfl⟩ := boundary
  obtain ⟨front', after', same, rfl⟩ := boundary'
  obtain ⟨between, rfl, rfl⟩ : ∃ between, front' = front ++ between ∧ after = between ++ after' := by
    rcases List.append_eq_append_iff.mp same with ⟨back, rfl, rfl⟩ | ⟨between, rfl, rfl⟩
    · rw [utf8Length_append] at before
      omega
    · exact ⟨between, rfl, rfl⟩
  rw [Prod.lex_def]
  by_cases feed : '\n' ∈ between
  · have later := List.count_pos_iff.mpr feed
    left
    change line _ _ < line _ _
    rw [line_utf8Length, ← List.append_assoc, line_utf8Length, List.count_append]
    omega
  · obtain ⟨lines, part, rfl, starts, clean⟩ := exists_lines front
    have longer : '\n' ∉ part ++ between := by simp [clean, feed]
    have place := lineCol_ofText starts clean (between ++ after')
    have further := lineCol_ofText starts longer after'
    simp only [List.append_assoc] at place further ⊢
    rw [place, further]
    have filled : between ≠ [] := by
      rintro rfl
      simp at before
    right
    rw [List.length_append]
    exact ⟨rfl, Nat.succ_lt_succ (Nat.lt_add_of_pos_right (List.length_pos_of_ne_nil filled))⟩

theorem lineCol_inj {content : Text} {offset offset' : Nat} (boundary : IsBoundary content offset)
    (boundary' : IsBoundary content offset')
    (same : (ofText content).lineCol content offset = (ofText content).lineCol content offset') :
    offset = offset' := by
  have irrefl (place : Nat × Nat) : ¬ Prod.Lex (· < ·) (· < ·) place place := by
    rw [Prod.lex_def]
    omega
  rcases Nat.lt_trichotomy offset offset' with before | same' | behind
  · exact absurd (same ▸ lineCol_lt boundary boundary' before) (irrefl _)
  · exact same'
  · exact absurd (same ▸ lineCol_lt boundary' boundary behind) (irrefl _)

/-- The text of the line behind some lines. -/
theorem lineText_ofText {lines part rest : Text} (starts : IsLineStart lines) (clean : '\n' ∉ part)
    (ends : IsLineEnd rest) :
    (ofText (lines ++ part ++ rest)).lineText (lines ++ part ++ rest) (lines.count '\n' + 1) =
      some (withoutReturn part) := by
  have start := starts_ofText starts (part ++ rest)
  rw [← List.append_assoc] at start
  have stop : ((ofText (lines ++ part ++ rest)).starts[lines.count '\n' + 1]?.map (· - 1)).getD
      (utf8Length (lines ++ part ++ rest)) = utf8Length lines + utf8Length part := by
    have count : (lines ++ part).count '\n' = lines.count '\n' := by
      rw [List.count_append, List.count_eq_zero_of_not_mem clean, Nat.add_zero]
    cases rest with
    | nil =>
      have last : (ofText (lines ++ part ++ [])).starts.length ≤ lines.count '\n' + 1 := by
        rw [length_starts, List.append_nil, count]
      rw [List.getElem?_eq_none last, Option.map_none, Option.getD_none, List.append_nil,
        utf8Length_append]
    | cons c rest =>
      have feed : c = '\n' := by simpa [IsLineEnd] using ends
      have begins : IsLineStart (lines ++ part ++ [c]) := .inr (by simp [feed])
      have next := starts_ofText begins rest
      rw [List.append_assoc _ [c], feed, List.count_append, count] at next
      rw [feed, show lines.count '\n' + 1 = lines.count '\n' + ['\n'].count '\n' from rfl,
        ← List.singleton_append, next, Option.map_some, Option.getD_some, utf8Length_append,
        utf8Length_append]
      rfl
  rw [lineText, if_neg (Nat.succ_ne_zero _), Nat.add_sub_cancel, start]
  simp only [bind, Option.bind, stop, slice_utf8Length, pure]
  rfl

/-- The lines are the parts between line feeds, without the carriage returns at their ends. -/
theorem lineText_succ (content : Text) (n : Nat) :
    (ofText content).lineText content (n + 1) =
      (splitOn '\n' content)[n]?.map withoutReturn := by
  cases here : (splitOn '\n' content)[n]? with
  | some part =>
    obtain ⟨lines, rest, rfl, starts, rfl, clean, ends⟩ := exists_of_splitOn here
    exact lineText_ofText starts clean ends
  | none =>
    have behind := List.getElem?_eq_none_iff.mp here
    rw [length_splitOn, ← length_starts] at behind
    rw [lineText, if_neg (Nat.succ_ne_zero n), Nat.add_sub_cancel, List.getElem?_eq_none behind]
    rfl

/-- What stands at a boundary and has no end of a line in it stands in the text of its line, in its
column. -/
theorem prefix_lineText {part : Text} (clean : '\n' ∉ part) (plain : '\r' ∉ part)
    (before after : Text) :
    let place := (ofText (before ++ part ++ after)).lineCol (before ++ part ++ after)
      (utf8Length before)
    ∃ text, (ofText (before ++ part ++ after)).lineText (before ++ part ++ after) place.1 =
      some text ∧ part <+: text.drop (place.2 - 1) := by
  obtain ⟨lines, front, rfl, starts, first⟩ := exists_lines before
  obtain ⟨back, rest, rfl, last, ends⟩ := exists_rest after
  have place := lineCol_ofText starts first (part ++ (back ++ rest))
  have whole : '\n' ∉ front ++ part ++ back := by simp [first, clean, last]
  have text := lineText_ofText starts whole ends
  simp only [List.append_assoc] at place text ⊢
  rw [place]
  refine ⟨_, text, ?_⟩
  rw [Nat.add_sub_cancel, ← List.append_assoc]
  exact prefix_withoutReturn plain

theorem filterMap_getElem?_range {α : Type} (items : List α) :
    (List.range items.length).filterMap (items[·]?) = items := by
  induction items with
  | nil => rfl
  | cons first items ih =>
    rw [List.length_cons, List.range_succ_eq_map, List.filterMap_cons, List.filterMap_map]
    exact congrArg (first :: ·) ih

/-! ## All places -/

/-- Lines count the line feeds in front of an offset, the place of a boundary leads back to it, and
the lines are those of the text. -/
theorem places_exact (content : Text) :
    (∀ offset, (ofText content).line offset =
      ((bytes content).take offset).count lineFeedByte + 1) ∧
    (∀ offset, IsBoundary content offset →
      ∃ line column lines rest, (ofText content).lineCol content offset = (line, column) ∧
        line = (ofText content).line offset ∧ 0 < column ∧
        lines ++ rest = content ∧ IsLineStart lines ∧ lines.count '\n' = line - 1 ∧
        (ofText content).starts[line - 1]? = some (utf8Length lines) ∧ column - 1 ≤ rest.length ∧
        utf8Length lines + utf8Length (rest.take (column - 1)) = offset) ∧
    (∀ offset offset', IsBoundary content offset → IsBoundary content offset' →
      (ofText content).lineCol content offset = (ofText content).lineCol content offset' →
        offset = offset') ∧
    (∀ n, ((ofText content).lineText content n).isSome ↔ 1 ≤ n ∧ n ≤ content.count '\n' + 1) ∧
    ((∀ line ∈ splitOn '\n' content, line.getLast? ≠ some '\r') →
      joinWith ['\n'] ((List.range (content.count '\n' + 1)).filterMap fun n =>
        (ofText content).lineText content (n + 1)) = content) := by
  refine ⟨line_ofText content, ?_, fun _ _ => lineCol_inj, fun n => ?_, fun plain => ?_⟩
  · rintro offset ⟨before, after, rfl, rfl⟩
    obtain ⟨lines, part, rfl, starts, clean⟩ := exists_lines before
    have place := lineCol_ofText starts clean after
    have start := starts_ofText starts (part ++ after)
    rw [← List.append_assoc] at start
    refine ⟨_, _, lines, part ++ after, place, (congrArg Prod.fst place).symm, Nat.succ_pos _,
      (List.append_assoc _ _ _).symm, starts, rfl, start, ?_, ?_⟩
    · rw [Nat.add_sub_cancel, List.length_append]
      exact Nat.le_add_right _ _
    · rw [Nat.add_sub_cancel, List.take_left, utf8Length_append]
  · cases n with
    | zero => simp [lineText]
    | succ n =>
      rw [lineText_succ, Option.isSome_map, ← Option.ne_none_iff_isSome, ne_eq,
        List.getElem?_eq_none_iff, length_splitOn]
      omega
  · have whole : (List.range (content.count '\n' + 1)).filterMap (fun n =>
        (ofText content).lineText content (n + 1)) = splitOn '\n' content := by
      have each (n : Nat) (inside : n ∈ List.range (content.count '\n' + 1)) :
          (ofText content).lineText content (n + 1) = (splitOn '\n' content)[n]? := by
        rw [lineText_succ]
        cases here : (splitOn '\n' content)[n]? with
        | none => rfl
        | some part =>
          exact congrArg some (withoutReturn_of_ne (plain part (List.mem_of_getElem? here)))
      rw [List.filterMap_congr each, ← length_splitOn, filterMap_getElem?_range]
    rw [whole, joinWith_splitOn]

/-- A line with a character of two bytes, an empty line, and a line that ends the text. -/
def mixedLines : Text := "aé\n\nb".toList

theorem places_exact_mixed :
    IsBoundary mixedLines 3 ∧ (∀ line ∈ splitOn '\n' mixedLines, line.getLast? ≠ some '\r') ∧
      (ofText mixedLines).lineCol mixedLines 3 = (1, 3) ∧
      (ofText mixedLines).line 9 = 3 ∧
      (∃ line column lines rest, (ofText mixedLines).lineCol mixedLines 3 = (line, column) ∧
        line = (ofText mixedLines).line 3 ∧ 0 < column ∧
        lines ++ rest = mixedLines ∧ IsLineStart lines ∧ lines.count '\n' = line - 1 ∧
        (ofText mixedLines).starts[line - 1]? = some (utf8Length lines) ∧
        column - 1 ≤ rest.length ∧ utf8Length lines + utf8Length (rest.take (column - 1)) = 3) ∧
      joinWith ['\n'] ((List.range (mixedLines.count '\n' + 1)).filterMap fun n =>
        (ofText mixedLines).lineText mixedLines (n + 1)) = mixedLines := by
  have boundary : IsBoundary mixedLines 3 := ⟨"aé".toList, "\n\nb".toList, by decide, by decide⟩
  have plain : ∀ line ∈ splitOn '\n' mixedLines, line.getLast? ≠ some '\r' := by decide
  obtain ⟨_, columns, _, _, texts⟩ := places_exact mixedLines
  exact ⟨boundary, plain, by decide, by decide, columns 3 boundary, texts plain⟩

end LineIndex

end LocaleLint
