import Mathlib
import LocaleLint.Json.Printer
import LocaleLint.Json.Reader
import LocaleLint.Proofs.Json.Sound

/-!
# Reading what was printed

A sound value whose doubles are read back is itself read back from its text, unless it nests too
deep. The text may be compact or indented in any way: between the entries of a container white space
is skipped.
-/

namespace LocaleLint.Json

/-! ## Strings -/

theorem readUnit_control {n : Nat} (control : n < 0x20) (rest : Text) :
    readUnit ('0' :: '0' :: Text.hexDigit (n / 16) :: Text.hexDigit (n % 16) :: rest) =
      .ok (n, rest) := by
  have size : ∀ n < 0x20, Text.utf8Length
      ['0', '0', Text.hexDigit (n / 16), Text.hexDigit (n % 16)] = 4 := by decide
  have value : ∀ n < 0x20, hexNumber?
      ['0', '0', Text.hexDigit (n / 16), Text.hexDigit (n % 16)] = some n := by decide
  unfold readUnit
  simp only [List.take_succ_cons, List.take_zero, List.drop_succ_cons, List.drop_zero,
    size n control, value n control, lt_irrefl, if_false]

theorem readEscaped_control {c : Char} (control : c.toNat < 0x20) (rest : Text) :
    readEscaped ('u' :: '0' :: '0' :: Text.hexDigit (c.toNat / 16) ::
      Text.hexDigit (c.toNat % 16) :: rest) = .ok (c, rest) := by
  have notTrailing : isTrailing c.toNat = false := by
    simp [isTrailing]
    omega
  have notLeading : isLeading c.toNat = false := by
    simp [isLeading]
    omega
  have unit := readUnit_control control rest
  simp only [readEscaped, readNumbered, unit, bind, Except.bind, notTrailing, notLeading,
    Bool.false_eq_true, if_false, Char.ofNat_toNat]
  rfl

/-- A character is read from its escape, or as it is. -/
theorem readChars_escapeChar (fuel : Nat) (c : Char) (rest : Text) :
    readChars (fuel + 1) (escapeChar c ++ rest) =
      (readChars fuel rest).map fun (s, rest) => (c :: s, rest) := by
  have pass : ∀ (x : Scan (Text × Text)),
      (do let (s, rest) ← x; return (c :: s, rest)) = x.map fun (s, rest) => (c :: s, rest) := by
    intro x
    cases x <;> rfl
  unfold escapeChar
  split_ifs with quote backslash b f n r t control
  · rw [← pass, quote]; rfl
  · rw [← pass, backslash]; rfl
  · rw [← pass, b]; rfl
  · rw [← pass, f]; rfl
  · rw [← pass, n]; rfl
  · rw [← pass, r]; rfl
  · rw [← pass, t]; rfl
  · have escaped := readEscaped_control control rest
    rw [← pass]
    simp only [List.cons_append, String.reduceToList, List.nil_append, readChars]
    rw [if_neg (by decide), if_pos trivial, escaped]
    rfl
  · rw [← pass]
    simp only [List.cons_append, List.nil_append, readChars, quote, backslash, control, if_false]

theorem readChars_flatMap {s : Text} {fuel : Nat} (enough : s.length < fuel) (rest : Text) :
    readChars fuel (s.flatMap escapeChar ++ '"' :: rest) = .ok (s, rest) := by
  induction s generalizing fuel with
  | nil =>
    obtain ⟨fuel, rfl⟩ := Nat.exists_eq_succ_of_ne_zero (by omega : fuel ≠ 0)
    simp [readChars]
  | cons c s ih =>
    obtain ⟨fuel, rfl⟩ := Nat.exists_eq_succ_of_ne_zero (by omega : fuel ≠ 0)
    rw [List.length_cons] at enough
    rw [List.flatMap_cons, List.append_assoc, readChars_escapeChar, ih (by omega)]
    rfl

theorem length_le_flatMap {α : Type} (f : α → Text) (nonempty : ∀ a, f a ≠ []) (list : List α) :
    list.length ≤ (list.flatMap f).length := by
  induction list with
  | nil => simp
  | cons a rest ih =>
    have first := List.length_pos_iff.mpr (nonempty a)
    rw [List.flatMap_cons, List.length_append, List.length_cons]
    omega

theorem escapeChar_ne_nil (c : Char) : escapeChar c ≠ [] := by
  unfold escapeChar
  split_ifs <;> simp

/-- A string is read from its quoted text. -/
theorem readString_quote (s rest : Text) :
    readString (s.flatMap escapeChar ++ '"' :: rest) = .ok (s, rest) := by
  have shorter := length_le_flatMap escapeChar escapeChar_ne_nil s
  apply readChars_flatMap
  rw [List.length_append, List.length_cons]
  omega

/-! ## White space -/

/-- White space only. -/
def Blank (gap : Text) : Prop := ∀ c ∈ gap, isBlank c

theorem skipBlank_append {gap : Text} (blank : Blank gap) (text : Text) :
    skipBlank (gap ++ text) = skipBlank text :=
  List.dropWhile_append_of_pos blank

theorem skipBlank_cons {c : Char} (visible : isBlank c = false) (rest : Text) :
    skipBlank (c :: rest) = c :: rest := by
  simp [skipBlank, visible]

theorem readWith_blank {reader : Option (Text → Scan (Json × Text))} {gap : Text}
    (blank : Blank gap) (text : Text) : readWith reader (gap ++ text) = readWith reader text := by
  unfold readWith
  rw [skipBlank_append blank]

theorem readValue_blank {gap : Text} (blank : Blank gap) (limit : Nat) (text : Text) :
    readValue limit (gap ++ text) = readValue limit text := by
  cases limit with
  | zero => exact readWith_blank blank text
  | succ limit => exact readWith_blank blank text

theorem endsNumber_nil : EndsNumber [] := by
  intro c first
  cases first

theorem endsNumber_cons {c : Char} {rest : Text}
    (other : isDigit c = false ∧ c ≠ '.' ∧ c ≠ 'e' ∧ c ≠ 'E') : EndsNumber (c :: rest) := by
  intro d first
  cases first
  exact other

theorem endsNumber_of_blank {gap : Text} (blank : Blank gap) : EndsNumber gap := by
  intro c first
  have space := blank c (List.mem_of_head? first)
  simp only [isBlank, Bool.or_eq_true, beq_iff_eq] at space
  rcases space with ((rfl | rfl) | rfl) | rfl <;> decide

theorem endsNumber_blank {gap : Text} (blank : Blank gap) {c : Char} {rest : Text}
    (other : isDigit c = false ∧ c ≠ '.' ∧ c ≠ 'e' ∧ c ≠ 'E') :
    EndsNumber (gap ++ c :: rest) := by
  cases gap with
  | nil => exact endsNumber_cons other
  | cons d gap => exact endsNumber_cons (endsNumber_of_blank blank d rfl)

theorem blank_newLine {step : Text} (blank : Blank step) (depth : Nat) :
    Blank (newLine step depth) := by
  intro c inside
  rcases List.mem_cons.mp inside with rfl | later
  · rfl
  · obtain ⟨_, copy, inCopy⟩ := List.mem_flatten.mp later
    rw [List.eq_of_mem_replicate copy] at inCopy
    exact blank c inCopy

/-! ## Entries -/

/-- A text that starts like a value, and not with something that stands around values. -/
def StartsValue (text : Text) : Prop :=
  ∃ c rest, text = c :: rest ∧ isBlank c = false ∧ c ≠ ']'

theorem StartsValue.append {text : Text} (starts : StartsValue text) (rest : Text) :
    StartsValue (text ++ rest) := by
  obtain ⟨c, others, rfl, visible, notClose⟩ := starts
  exact ⟨c, others ++ rest, rfl, visible, notClose⟩

section

variable {readItem : Text → Scan (Json × Text)} {gap space close : Text} {layout : Json → Text}

private theorem readItems_step {first : Bool} {item : Json} {items : List Json} {fuel : Nat}
    {start text later rest : Text} (next : nextItem first start = .ok (.inl text))
    (read : readItem text = .ok (item, later))
    (others : readItems readItem fuel false later = .ok (items, rest)) :
    readItems readItem (fuel + 1) first start = .ok (item :: items, rest) := by
  simp only [readItems, next, read, others, bind, Except.bind, pure, Except.pure]

theorem nextItem_comma (gapBlank : Blank gap) {text : Text} (starts : StartsValue text) :
    nextItem false (',' :: (gap ++ text)) = .ok (.inl text) := by
  obtain ⟨c, rest, rfl, visible, notClose⟩ := starts
  unfold nextItem
  rw [skipBlank_cons (by decide)]
  split
  · rename_i none
    cases none
  · rename_i bracket
    exact absurd (List.cons.inj bracket).1 (by decide)
  · rename_i comma
    cases comma
    simp only [Bool.false_eq_true, if_false, if_true, skipBlank_append gapBlank,
      skipBlank_cons visible]
    split
    · rename_i none
      cases none
    · rename_i bracket
      exact absurd (List.cons.inj bracket).1 notClose
    · rfl

theorem nextItem_first (gapBlank : Blank gap) {text : Text} (starts : StartsValue text) :
    nextItem true (gap ++ text) = .ok (.inl text) := by
  obtain ⟨c, rest, rfl, visible, notClose⟩ := starts
  unfold nextItem
  rw [skipBlank_append gapBlank, skipBlank_cons visible]
  split
  · rename_i none
    cases none
  · rename_i bracket
    exact absurd (List.cons.inj bracket).1 notClose
  · rename_i split
    cases split
    rfl

theorem nextItem_close (closeBlank : Blank close) (first : Bool) (rest : Text) :
    nextItem first (close ++ ']' :: rest) = .ok (.inr rest) := by
  unfold nextItem
  rw [skipBlank_append closeBlank, skipBlank_cons (by decide)]
  rfl

/-- The items behind the first one are read from their texts with commas in front. -/
theorem readItems_append (gapBlank : Blank gap) (closeBlank : Blank close) {items : List Json}
    (starts : ∀ item ∈ items, StartsValue (layout item))
    (each : ∀ item ∈ items, ∀ rest, EndsNumber rest →
      readItem (layout item ++ rest) = .ok (item, rest))
    {fuel : Nat} (enough : items.length < fuel) (rest : Text) :
    EndsNumber ((items.flatMap fun item => ',' :: (gap ++ layout item)) ++
      (close ++ ']' :: rest)) ∧
    readItems readItem fuel false ((items.flatMap fun item => ',' :: (gap ++ layout item)) ++
      (close ++ ']' :: rest)) = .ok (items, rest) := by
  induction items generalizing fuel with
  | nil =>
    obtain ⟨fuel, rfl⟩ := Nat.exists_eq_succ_of_ne_zero (by omega : fuel ≠ 0)
    refine ⟨endsNumber_blank closeBlank (by decide), ?_⟩
    have closed := @nextItem_close close closeBlank false rest
    simp only [List.flatMap_nil, List.nil_append, readItems, closed, bind, Except.bind, pure,
      Except.pure]
  | cons item items ih =>
    obtain ⟨fuel, rfl⟩ := Nat.exists_eq_succ_of_ne_zero (by omega : fuel ≠ 0)
    rw [List.length_cons] at enough
    obtain ⟨ends, others⟩ := @ih (fun x inside => starts x (List.mem_cons_of_mem item inside))
      (fun x inside => each x (List.mem_cons_of_mem item inside)) fuel (by omega)
    refine ⟨endsNumber_cons (by decide), ?_⟩
    have read := each item List.mem_cons_self _ ends
    simp only [List.flatMap_cons, List.cons_append, List.append_assoc]
    exact readItems_step (nextItem_comma gapBlank ((starts item List.mem_cons_self).append _)) read
      others

private theorem readMembers_step {first : Bool} {name : Text} {value : Json}
    {members : List (Text × Json)} {fuel : Nat} {start text named colon later rest : Text}
    (next : nextName first start = .ok (.inl text)) (readName : readString text = .ok (name, named))
    (passed : readColon named = .ok colon) (read : readItem colon = .ok (value, later))
    (others : readMembers readItem fuel false later = .ok (members, rest)) :
    readMembers readItem (fuel + 1) first start = .ok ((name, value) :: members, rest) := by
  simp only [readMembers, next, readName, passed, read, others, bind, Except.bind, pure,
    Except.pure]

theorem nextName_comma (gapBlank : Blank gap) (text : Text) :
    nextName false (',' :: (gap ++ '"' :: text)) = .ok (.inl text) := by
  unfold nextName
  rw [skipBlank_cons (by decide)]
  split
  · rename_i none
    cases none
  · rename_i brace
    exact absurd (List.cons.inj brace).1 (by decide)
  · rename_i comma
    cases comma
    rw [skipBlank_append gapBlank, skipBlank_cons (by decide)]
    rfl

theorem nextName_first (gapBlank : Blank gap) (text : Text) :
    nextName true (gap ++ '"' :: text) = .ok (.inl text) := by
  unfold nextName
  rw [skipBlank_append gapBlank, skipBlank_cons (by decide)]
  rfl

theorem nextName_close (closeBlank : Blank close) (first : Bool) (rest : Text) :
    nextName first (close ++ '\x7d' :: rest) = .ok (.inr rest) := by
  unfold nextName
  rw [skipBlank_append closeBlank, skipBlank_cons (by decide)]
  rfl

theorem readColon_colon (rest : Text) : readColon (':' :: rest) = .ok rest := by
  unfold readColon
  rw [skipBlank_cons (by decide)]
  rfl

/-- The text of a member: its name, and its value behind a colon and some space. -/
def memberText (space : Text) (layout : Json → Text) (member : Text × Json) : Text :=
  quote member.1 ++ ':' :: (space ++ layout member.2)

private theorem memberText_append (member : Text × Json) (rest : Text) :
    memberText space layout member ++ rest = '"' :: (member.1.flatMap escapeChar ++
      '"' :: (':' :: (space ++ (layout member.2 ++ rest)))) := by
  simp [memberText, quote]

/-- The members behind the first one are read from their texts with commas in front. -/
theorem readMembers_append (gapBlank : Blank gap) (closeBlank : Blank close)
    {members : List (Text × Json)}
    (each : ∀ member ∈ members, ∀ rest, EndsNumber rest →
      readItem (space ++ (layout member.2 ++ rest)) = .ok (member.2, rest))
    {fuel : Nat} (enough : members.length < fuel) (rest : Text) :
    EndsNumber ((members.flatMap fun member => ',' :: (gap ++ memberText space layout member)) ++
      (close ++ '\x7d' :: rest)) ∧
    readMembers readItem fuel false
      ((members.flatMap fun member => ',' :: (gap ++ memberText space layout member)) ++
        (close ++ '\x7d' :: rest)) = .ok (members, rest) := by
  induction members generalizing fuel with
  | nil =>
    obtain ⟨fuel, rfl⟩ := Nat.exists_eq_succ_of_ne_zero (by omega : fuel ≠ 0)
    refine ⟨endsNumber_blank closeBlank (by decide), ?_⟩
    have closed := @nextName_close close closeBlank false rest
    simp only [List.flatMap_nil, List.nil_append, readMembers, closed, bind, Except.bind, pure,
      Except.pure]
  | cons member members ih =>
    obtain ⟨fuel, rfl⟩ := Nat.exists_eq_succ_of_ne_zero (by omega : fuel ≠ 0)
    rw [List.length_cons] at enough
    obtain ⟨ends, others⟩ :=
      @ih (fun x inside => each x (List.mem_cons_of_mem member inside)) fuel (by omega)
    refine ⟨endsNumber_cons (by decide), ?_⟩
    have read := each member List.mem_cons_self _ ends
    simp only [List.flatMap_cons, List.cons_append, List.append_assoc, memberText_append]
    exact readMembers_step (nextName_comma gapBlank _) (readString_quote _ _)
      (readColon_colon _) read others

end

/-! ## Containers -/

theorem joinWith_cons (separator first : Text) (rest : List Text) :
    Text.joinWith separator (first :: rest) = first ++ rest.flatMap (separator ++ ·) := by
  induction rest generalizing first with
  | nil => simp [Text.joinWith]
  | cons second rest ih => simp [Text.joinWith, ih]

theorem indentedItems_eq (step : Text) (depth : Nat) (items : List Json) :
    indentedItems step depth items = items.map (indented step depth) := by
  induction items with
  | nil => rfl
  | cons item rest ih => simp [indentedItems, ih]

theorem indentedMembers_eq (step : Text) (depth : Nat) (members : List (Text × Json)) :
    indentedMembers step depth members = members.map (memberText [' '] (indented step depth)) := by
  induction members with
  | nil => rfl
  | cons member rest ih => simp [indentedMembers, ih, memberText]

theorem compactItems_eq (items : List Json) : compactItems items = items.map compact := by
  induction items with
  | nil => rfl
  | cons item rest ih => simp [compactItems, ih]

theorem compactMembers_eq (members : List (Text × Json)) :
    compactMembers members = members.map (memberText [] compact) := by
  induction members with
  | nil => rfl
  | cons member rest ih => simp [compactMembers, ih, memberText]

/-- The text of a container: its entries with commas between them, white space in front of each,
and white space behind the last one. -/
def enclosed (gap close : Text) (start stop : Char) (entries : List Text) : Text :=
  if entries.isEmpty then [start, stop]
  else start :: gap ++ Text.joinWith (',' :: gap) entries ++ close ++ [stop]

theorem block_eq_enclosed (step : Text) (depth : Nat) (start stop : Char) (entries : List Text) :
    block step depth start stop entries =
      enclosed (newLine step (depth + 1)) (newLine step depth) start stop entries := rfl

theorem compact_eq_enclosed (start stop : Char) (entries : List Text) :
    start :: Text.joinWith [','] entries ++ [stop] = enclosed [] [] start stop entries := by
  cases entries with
  | nil => rfl
  | cons first others => simp [enclosed]

private theorem enclosed_nil (gap close : Text) (start stop : Char) (rest : Text) :
    enclosed gap close start stop [] ++ rest = start :: stop :: rest := rfl

private theorem enclosed_cons {α : Type} (gap close : Text) (start stop : Char)
    (layout : α → Text) (first : α) (others : List α) (rest : Text) :
    enclosed gap close start stop ((first :: others).map layout) ++ rest =
      start :: (gap ++ (layout first ++
        ((others.flatMap fun a => ',' :: (gap ++ layout a)) ++ (close ++ stop :: rest)))) := by
  simp only [enclosed, List.map_cons, List.isEmpty_cons, Bool.false_eq_true, if_false,
    joinWith_cons, List.flatMap_map, List.cons_append, List.append_assoc, List.nil_append]

theorem exists_enclosed_eq_cons (gap close : Text) (start stop : Char) (entries : List Text) :
    ∃ rest, enclosed gap close start stop entries = start :: rest := by
  unfold enclosed
  split
  · exact ⟨_, rfl⟩
  · exact ⟨_, rfl⟩

theorem startsValue_enclosed (gap close : Text) {start : Char} (stop : Char)
    (visible : isBlank start = false) (notClose : start ≠ ']') (entries : List Text) :
    StartsValue (enclosed gap close start stop entries) := by
  obtain ⟨rest, text⟩ := exists_enclosed_eq_cons gap close start stop entries
  exact ⟨start, rest, text, visible, notClose⟩

section

variable {readItem : Text → Scan (Json × Text)} {gap space close : Text} {layout : Json → Text}

/-- An array is read from the text of its items in brackets. -/
theorem readWith_array (gapBlank : Blank gap) (closeBlank : Blank close) {items : List Json}
    (starts : ∀ item ∈ items, StartsValue (layout item))
    (each : ∀ item ∈ items, ∀ rest, EndsNumber rest →
      readItem (layout item ++ rest) = .ok (item, rest)) (rest : Text) :
    readWith (some readItem) (enclosed gap close '[' ']' (items.map layout) ++ rest) =
      .ok (array items, rest) := by
  have opened : ∀ text, readItems readItem (text.length + 1) true text = .ok (items, rest) →
      readWith (some readItem) ('[' :: text) = .ok (array items, rest) := by
    intro text read
    rw [readWith, skipBlank_cons (by decide)]
    simp [readContainer, read, bind, Except.bind, pure, Except.pure]
  cases items with
  | nil =>
    rw [List.map_nil, enclosed_nil]
    apply opened
    have closed := @nextItem_close [] nofun true rest
    rw [List.nil_append] at closed
    simp only [readItems, closed, bind, Except.bind, pure, Except.pure]
  | cons item items =>
    rw [enclosed_cons]
    apply opened
    have shorter := length_le_flatMap (fun a => ',' :: (gap ++ layout a))
      (fun _ => List.cons_ne_nil _ _) items
    have others : ∀ fuel, items.length < fuel → _ := fun fuel enough =>
      @readItems_append readItem _ _ layout gapBlank closeBlank items
        (fun x inside => starts x (List.mem_cons_of_mem item inside))
        (fun x inside => each x (List.mem_cons_of_mem item inside)) fuel enough rest
    refine readItems_step (nextItem_first gapBlank ((starts item List.mem_cons_self).append _))
      (each item List.mem_cons_self _ (others _ (Nat.lt_succ_self _)).1) (others _ ?_).2
    simp only [List.length_append, List.length_cons]
    omega

/-- An object is read from the text of its members in braces. -/
theorem readWith_object (gapBlank : Blank gap) (closeBlank : Blank close) {members : Members}
    (distinct : (members.map Prod.fst).Nodup)
    (each : ∀ member ∈ members, ∀ rest, EndsNumber rest →
      readItem (space ++ (layout member.2 ++ rest)) = .ok (member.2, rest)) (rest : Text) :
    readWith (some readItem)
      (enclosed gap close '\x7b' '\x7d' (members.map (memberText space layout)) ++ rest) =
      .ok (object members, rest) := by
  have opened : ∀ text, readMembers readItem (text.length + 1) true text = .ok (members, rest) →
      readWith (some readItem) ('\x7b' :: text) = .ok (object members, rest) := by
    intro text read
    rw [readWith, skipBlank_cons (by decide)]
    simp [readContainer, read, bind, Except.bind, pure, Except.pure,
      Members.ofPairs_eq_self distinct]
  cases members with
  | nil =>
    rw [List.map_nil, enclosed_nil]
    apply opened
    have closed := @nextName_close [] nofun true rest
    rw [List.nil_append] at closed
    simp only [readMembers, closed, bind, Except.bind, pure, Except.pure]
  | cons member members =>
    rw [enclosed_cons, memberText_append]
    apply opened
    have shorter := length_le_flatMap
      (fun a => ',' :: (gap ++ memberText space layout a))
      (fun _ => List.cons_ne_nil _ _) members
    have others : ∀ fuel, members.length < fuel → _ := fun fuel enough =>
      @readMembers_append readItem _ _ _ layout gapBlank closeBlank members
        (fun x inside => each x (List.mem_cons_of_mem member inside)) fuel enough rest
    refine readMembers_step (nextName_first gapBlank _) (readString_quote _ _) (readColon_colon _)
      (each member List.mem_cons_self _ (others _ (Nat.lt_succ_self _)).1) (others _ ?_).2
    simp only [List.length_append, List.length_cons]
    omega

end

/-! ## Values -/

private theorem digit_visible {c : Char} (digit : isDigit c) :
    isBlank c = false ∧ c ≠ ']' ∧ c ≠ '[' ∧ c ≠ '\x7b' ∧ c ≠ '"' ∧ c ≠ '-' := by
  obtain ⟨lower, upper⟩ := Text.toNat_of_digit digit
  have differs : ∀ d : Char, d.toNat < 48 ∨ 57 < d.toNat → c ≠ d := by
    rintro d outside rfl
    omega
  refine ⟨?_, differs _ (by decide), differs _ (by decide), differs _ (by decide),
    differs _ (by decide), differs _ (by decide)⟩
  simp [isBlank, differs ' ' (by decide), differs '\n' (by decide), differs '\t' (by decide),
    differs '\r' (by decide)]

/-- What a value is read as that starts like a numeral is a matter of the numeral. -/
theorem readWith_numeral (reader : Option (Text → Scan (Json × Text))) {numeral : Numeral}
    (written : numeral.IsWritten) (rest : Text) :
    readWith reader (numeral.text ++ rest) =
      (readUnsigned numeral.negative (numeral.unsigned ++ rest)).map
        fun (n, rest) => (number n, rest) := by
  have pass : ∀ (x : Scan (Number × Text)),
      (do let (n, rest) ← x; return (number n, rest)) = x.map fun (n, rest) => (number n, rest) := by
    intro x
    cases x <;> rfl
  obtain ⟨c, others, split, digit⟩ := written.unsigned_eq_cons
  obtain ⟨visible, _, notBracket, notBrace, notQuote, notMinus⟩ := digit_visible digit
  rw [← pass, Numeral.text, split]
  unfold readWith
  cases numeral.negative with
  | true =>
    rw [show Double.signText true ++ (c :: others) ++ rest = '-' :: (c :: others ++ rest) from rfl,
      skipBlank_cons (by decide)]
    rfl
  | false =>
    rw [show Double.signText false ++ (c :: others) ++ rest = c :: (others ++ rest) from rfl,
      skipBlank_cons visible]
    simp [notBracket, notBrace, notQuote, notMinus, digit]

theorem startsValue_numeral {numeral : Numeral} (written : numeral.IsWritten) :
    StartsValue numeral.text := by
  obtain ⟨c, others, split, digit⟩ := written.unsigned_eq_cons
  obtain ⟨visible, notClose, _⟩ := digit_visible digit
  rw [Numeral.text, split]
  cases numeral.negative with
  | true => exact ⟨'-', _, rfl, by decide, by decide⟩
  | false => exact ⟨c, _, rfl, visible, notClose⟩

/-- A number denotes what its text is read as. -/
theorem exists_denotes_of_ofText {n other : Number} (readable : n.IsReadable)
    (read : ofText n.text = .ok (number other)) :
    ∃ numeral : Numeral, n.text = numeral.text ∧ numeral.Denotes other := by
  obtain ⟨numeral, text, written⟩ := n.exists_numeral readable
  obtain ⟨⟨value, rest⟩, first, read⟩ := bind_eq_ok.mp (mapError_eq_ok.mp read)
  obtain ⟨_, _, made⟩ := bind_eq_ok.mp read
  cases made
  have scalar : readWith (some (readValue (depthLimit - 1))) (numeral.text ++ []) =
      .ok (number other, rest) := by
    rw [List.append_nil, ← text]
    exact first
  rw [readWith_numeral _ written, map_eq_ok] at scalar
  obtain ⟨⟨n, left⟩, read, made⟩ := scalar
  cases made
  exact ⟨numeral, text, Numeral.denotes_of_readUnsigned written endsNumber_nil read⟩

/-- The text of a number is a numeral for the number. If the number is a double, that is assumed. -/
theorem exists_denotes {n : Number} (readable : n.IsReadable) (back : (number n).ReadsBack) :
    ∃ numeral : Numeral, n.text = numeral.text ∧ numeral.Denotes n := by
  cases n with
  | integer n =>
    exact ⟨_, by simp [Number.text, Numeral.text, Numeral.unsigned, fractionText, exponentText],
      integer_numeral readable⟩
  | double x => exact exists_denotes_of_ofText readable (back x (List.mem_singleton_self x))

/-- A number is read from its text. -/
theorem readWith_number (reader : Option (Text → Scan (Json × Text))) {n : Number}
    (readable : n.IsReadable) (back : (number n).ReadsBack) {rest : Text} (ends : EndsNumber rest) :
    readWith reader (n.text ++ rest) = .ok (number n, rest) := by
  obtain ⟨numeral, text, denotes⟩ := exists_denotes readable back
  rw [text, readWith_numeral reader denotes.written, denotes.readUnsigned ends]
  rfl

/-- A double with a short decimal is read back. -/
theorem isReadBack_of_isShort {negative : Bool} {mantissa : Nat} {exponent : Int}
    (normal : (Double.finite negative mantissa exponent).IsNormal)
    (short : Decimal.IsShort (.ofDouble mantissa exponent)) :
    IsReadBack (.finite negative mantissa exponent) := by
  obtain ⟨numeral, text, rfl, writes⟩ := exists_numeral_of_isNormal normal
  have denotes := writes.denotes normal short
  have read : readValue depthLimit (numeral.text ++ []) = .ok (number (.double (.finite numeral.negative mantissa exponent)), []) := by
    change readWith _ _ = _
    rw [readWith_numeral _ denotes.written, denotes.readUnsigned endsNumber_nil]
    rfl
  rw [List.append_nil] at read
  rw [IsReadBack, text, ofText, readDocument, read]
  rfl

/-- Not every double is read back: the digits of this one, which take more than 53 bits, are rounded
before they are scaled. -/
theorem exists_not_isReadBack : ∃ x : Double, x.IsNormal ∧ ¬ IsReadBack x := by
  refine ⟨.finite false 8514241504521788 (-53),
    .intro (by decide) (by decide) (by decide) (.inr (by decide)), fun back => ?_⟩
  have next : ofText (Number.text (.double (.finite false 8514241504521788 (-53)))) =
      .ok (number (.double (.finite false 8514241504521789 (-53)))) := rfl
  rw [IsReadBack, next] at back
  simp at back

/-- The text of a scalar starts like a value and is read as the scalar. -/
theorem readWith_scalar {value : Json} (sound : value.Sound) (flat : value.depth = 0) :
    StartsValue value.scalarText ∧ (value.ReadsBack → ∀ reader rest, EndsNumber rest →
      readWith reader (value.scalarText ++ rest) = .ok (value, rest)) := by
  cases sound with
  | null => exact ⟨⟨'n', _, rfl, by decide, by decide⟩, fun _ _ _ _ => rfl⟩
  | bool value =>
    cases value with
    | true => exact ⟨⟨'t', _, rfl, by decide, by decide⟩, fun _ _ _ _ => rfl⟩
    | false => exact ⟨⟨'f', _, rfl, by decide, by decide⟩, fun _ _ _ _ => rfl⟩
  | @number n readable =>
    refine ⟨?_, fun back reader rest ends => readWith_number reader readable back ends⟩
    obtain ⟨numeral, text, written⟩ := n.exists_numeral readable
    show StartsValue n.text
    rw [text]
    exact startsValue_numeral written
  | string s =>
    refine ⟨⟨'"', _, rfl, by decide, by decide⟩, fun _ reader rest ends => ?_⟩
    have read := readString_quote s rest
    rw [scalarText, quote, List.cons_append, List.cons_append, readWith,
      skipBlank_cons (by decide)]
    simp [read, bind, Except.bind, pure, Except.pure]
  | array _ => cases flat
  | object _ _ => cases flat

private theorem readValue_of_readWith {limit : Nat} {text : Text} {result : Json × Text}
    (read : ∀ reader, readWith reader text = .ok result) : readValue limit text = .ok result := by
  cases limit with
  | zero => exact read none
  | succ limit => exact read _

/-- How a layout writes values: scalars as they are, and containers with white space around their
entries. -/
structure IsLayout (layout : Nat → Json → Text) : Prop where
  scalar : ∀ indent {value}, value.depth = 0 → layout indent value = value.scalarText
  array : ∀ indent items, ∃ gap close, Blank gap ∧ Blank close ∧
    layout indent (array items) =
      enclosed gap close '[' ']' (items.map (layout (indent + 1)))
  object : ∀ indent members, ∃ gap space close, Blank gap ∧ Blank space ∧ Blank close ∧
    layout indent (object members) =
      enclosed gap close '\x7b' '\x7d' (members.map (memberText space (layout (indent + 1))))

theorem blank_nil : Blank [] := nofun

theorem blank_spaces (spaces : Nat) : Blank (List.replicate spaces ' ') := by
  intro c inside
  rw [List.eq_of_mem_replicate inside]
  rfl

theorem isLayout_compact : IsLayout fun _ => compact where
  scalar _ value flat := by
    cases value with
    | array _ => cases flat
    | object _ => cases flat
    | _ => rfl
  array _ items := ⟨[], [], blank_nil, blank_nil, by
    rw [compact, compactItems_eq, compact_eq_enclosed]⟩
  object _ members := ⟨[], [], [], blank_nil, blank_nil, blank_nil, by
    rw [compact, compactMembers_eq, compact_eq_enclosed]⟩

theorem isLayout_indented {step : Text} (blank : Blank step) : IsLayout (indented step) where
  scalar _ value flat := by
    cases value with
    | array _ => cases flat
    | object _ => cases flat
    | _ => rfl
  array indent items := ⟨_, _, blank_newLine blank (indent + 1), blank_newLine blank indent, by
    rw [indented, indentedItems_eq, block_eq_enclosed]⟩
  object indent members := by
    have space : Blank [' '] := by simp [Blank, isBlank]
    refine ⟨_, _, _, blank_newLine blank (indent + 1), space, blank_newLine blank indent, ?_⟩
    rw [indented, indentedMembers_eq, block_eq_enclosed]

section

variable {layout : Nat → Json → Text}

theorem startsValue_layout (writes : IsLayout layout) {value : Json} (sound : value.Sound)
    (indent : Nat) : StartsValue (layout indent value) := by
  by_cases flat : value.depth = 0
  · rw [writes.scalar indent flat]
    exact (readWith_scalar sound flat).1
  · cases value with
    | array items =>
      obtain ⟨gap, close, _, _, text⟩ := writes.array indent items
      rw [text]
      exact startsValue_enclosed _ _ _ (by decide) (by decide) _
    | object members =>
      obtain ⟨gap, space, close, _, _, _, text⟩ := writes.object indent members
      rw [text]
      exact startsValue_enclosed _ _ _ (by decide) (by decide) _
    | _ => exact absurd rfl flat

/-- A sound value is read from its text within a limit that it does not exceed. -/
theorem readValue_layout (writes : IsLayout layout) {value : Json} (sound : value.Sound)
    (back : value.ReadsBack) (indent : Nat) {limit : Nat} (fits : value.depth ≤ limit) {rest : Text}
    (ends : EndsNumber rest) :
    readValue limit (layout indent value ++ rest) = .ok (value, rest) := by
  have scalar : ∀ {value : Json}, value.Sound → value.ReadsBack → value.depth = 0 →
      ∀ {indent limit rest}, EndsNumber rest →
        readValue limit (layout indent value ++ rest) = .ok (value, rest) := by
    intro value sound back flat indent limit rest ends
    rw [writes.scalar indent flat]
    exact readValue_of_readWith fun reader => (readWith_scalar sound flat).2 back reader rest ends
  induction sound generalizing indent limit rest with
  | @array items sound ih =>
    obtain ⟨limit, rfl⟩ := Nat.exists_eq_succ_of_ne_zero (by rw [depth] at fits; omega : limit ≠ 0)
    have nested := depthItems_le.mp (Nat.le_of_succ_le_succ fits)
    obtain ⟨gap, close, gapBlank, closeBlank, text⟩ := writes.array indent items
    rw [text]
    exact readWith_array gapBlank closeBlank
      (fun item inside => startsValue_layout writes (sound item inside) _)
      (fun item inside rest ends => ih item inside (back.item inside) _ (nested item inside) ends)
      rest
  | @object members distinct sound ih =>
    obtain ⟨limit, rfl⟩ := Nat.exists_eq_succ_of_ne_zero (by rw [depth] at fits; omega : limit ≠ 0)
    have nested := depthMembers_le.mp (Nat.le_of_succ_le_succ fits)
    obtain ⟨gap, space, close, gapBlank, spaceBlank, closeBlank, text⟩ :=
      writes.object indent members
    rw [text]
    refine readWith_object gapBlank closeBlank distinct (fun member inside rest ends => ?_) rest
    rw [readValue_blank spaceBlank]
    exact ih member inside (back.member inside) _ (nested member inside) ends
  | null => exact scalar .null back rfl ends
  | bool value => exact scalar (.bool value) back rfl ends
  | number readable => exact scalar (.number readable) back rfl ends
  | string s => exact scalar (.string s) back rfl ends

end

/-- A sound value whose doubles are read back is read back from its text exactly if it does not nest
too deep, and nothing else is read from that text. -/
theorem ofText_pretty_iff {value other : Json} (sound : value.Sound) (back : value.ReadsBack)
    (spaces : Nat) :
    ofText (value.pretty spaces ++ ['\n']) = .ok other ↔
      other = value ∧ value.depth ≤ depthLimit := by
  have ends : EndsNumber ['\n'] := endsNumber_cons (by decide)
  have whole : ∀ limit, value.depth ≤ limit →
      readValue limit (value.pretty spaces ++ ['\n']) = .ok (value, ['\n']) := fun limit fits =>
    readValue_layout (isLayout_indented (blank_spaces spaces)) sound back 0 fits ends
  constructor
  · intro read
    have fits := (sound_of_ofText read).2
    obtain ⟨⟨given, rest⟩, readFirst, read⟩ := bind_eq_ok.mp (mapError_eq_ok.mp read)
    obtain ⟨_, _, read⟩ := bind_eq_ok.mp read
    cases read
    have raised := readValue_mono (le_max_left depthLimit value.depth) readFirst
    rw [whole _ (le_max_right _ _)] at raised
    cases raised
    exact ⟨rfl, fits⟩
  · rintro ⟨rfl, fits⟩
    simp only [ofText, readDocument, whole depthLimit fits, bind, Except.bind]
    rfl

end LocaleLint.Json
