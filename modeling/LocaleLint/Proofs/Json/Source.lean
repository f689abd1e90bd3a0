import Mathlib
import LocaleLint.Proofs.Json.RoundTrip

/-!
# The parts of JSON texts

A JSON text without escapes, part by part: the white space, the words, the quoted strings and the
names of members, and what belongs to which container. Every such text that is read consists of
these parts.
-/

namespace LocaleLint.Json

/-! ## Parts -/

/-- A part of a text: the name of a member in quotes, another string in quotes, or what stands
between the quotes. -/
inductive Piece where
  | plain (text : Text)
  | name (s : Text)
  | string (s : Text)
deriving Repr, DecidableEq

namespace Piece

/-- What a part is written as. -/
def text : Piece → Text
  | .plain text => text
  | .name s => '"' :: s ++ ['"']
  | .string s => '"' :: s ++ ['"']

/-- What parts are written as, one behind the other. -/
def textOf (pieces : List Piece) : Text := pieces.flatMap text

@[simp] theorem textOf_nil : textOf [] = [] := rfl

@[simp] theorem textOf_cons (piece : Piece) (pieces : List Piece) :
    textOf (piece :: pieces) = piece.text ++ textOf pieces := rfl

@[simp] theorem textOf_append (pieces more : List Piece) :
    textOf (pieces ++ more) = textOf pieces ++ textOf more :=
  List.flatMap_append

/-- The name in a part that is one. -/
def name? : Piece → Option Text
  | .name s => some s
  | _ => none

end Piece

instance : DecidablePred Blank := fun gap =>
  decidable_of_iff (gap.all isBlank = true) List.all_eq_true

/-- White space. -/
abbrev Gap := {gap : Text // Blank gap}

/-- No white space. -/
def Gap.none : Gap := ⟨[], List.forall_mem_nil _⟩

/-- What a string without escapes holds between its quotes. -/
def IsUnescaped (s : Text) : Prop := ∀ c ∈ s, c ≠ '"' ∧ c ≠ '\\' ∧ 0x20 ≤ c.toNat

instance : DecidablePred IsUnescaped := fun s => List.decidableBAll _ s

/-- A string without escapes. -/
abbrev Unescaped := {s : Text // IsUnescaped s}

/-- The characters of numbers, truth values and null. -/
def isWordChar (c : Char) : Bool :=
  isDigit c || c ∈ ['+', '-', '.', 'E', 'a', 'e', 'f', 'l', 'n', 'r', 's', 't', 'u']

/-- A number, a truth value or null. -/
def isWord : Json → Bool
  | null | bool _ | number _ => true
  | _ => false

/-- A number, a truth value or null as it is written. -/
structure Word where
  text : Text
  value : Json
  solid : ∀ c ∈ text, isWordChar c = true
  isWord : value.isWord = true

/-- What stands in front of an entry of a container: white space, around a comma if the entry is not
the first one. -/
structure Lead where
  before : Gap
  behind : Gap

def Lead.text (first : Bool) (lead : Lead) : Text :=
  if first then lead.before.1 ++ lead.behind.1 else lead.before.1 ++ ',' :: lead.behind.1

/-- What stands in front of the value of a member: its name, and a colon between white space. -/
structure Label extends Lead where
  name : Unescaped
  beforeColon : Gap
  behindColon : Gap

def Label.colon (label : Label) : Text := label.beforeColon.1 ++ ':' :: label.behindColon.1

/-- A value as a text writes it. -/
inductive Source where
  | word (w : Word)
  | string (s : Unescaped)
  | array (items : List (Lead × Source)) (close : Gap)
  | object (members : List (Label × Source)) (close : Gap)

namespace Source

mutual

/-- The parts of a value. -/
def pieces : Source → List Piece
  | word w => [.plain w.text]
  | string s => [.string s]
  | array items close => .plain ['['] :: (itemPieces true items ++ [.plain (close.1 ++ [']'])])
  | object members close =>
    .plain ['\x7b'] :: (memberPieces true members ++ [.plain (close.1 ++ ['\x7d'])])

/-- The parts of the items of an array. -/
def itemPieces : (first : Bool) → List (Lead × Source) → List Piece
  | _, [] => []
  | first, (lead, item) :: rest =>
    .plain (lead.text first) :: (item.pieces ++ itemPieces false rest)

/-- The parts of the members of an object. -/
def memberPieces : (first : Bool) → List (Label × Source) → List Piece
  | _, [] => []
  | first, (label, value) :: rest =>
    .plain (label.text first) :: .name label.name :: .plain label.colon ::
      (value.pieces ++ memberPieces false rest)

end

mutual

/-- The value that is written. -/
def value : Source → Json
  | word w => w.value
  | string s => .string s
  | array items _ => .array (itemValues items)
  | object members _ => .object (Members.ofPairs (memberValues members))

def itemValues : List (Lead × Source) → List Json
  | [] => []
  | (_, item) :: rest => item.value :: itemValues rest

/-- The members of an object, with repeated names. -/
def memberValues : List (Label × Source) → List (Text × Json)
  | [] => []
  | (label, value) :: rest => (label.name.1, value.value) :: memberValues rest

end

end Source

/-- A text that is one value. -/
structure Page where
  before : Gap
  body : Source
  behind : Gap

/-- The parts of a text. -/
def Page.pieces (page : Page) : List Piece :=
  .plain page.before :: (page.body.pieces ++ [.plain page.behind])

/-- Whether a text with a value is made of these parts. -/
structure Page.Writes (page : Page) (content : Text) (value : Json) : Prop where
  text : Piece.textOf page.pieces = content
  value : page.body.value = value

/-! ## Reading finds the parts -/

theorem exists_gap (text : Text) : ∃ gap : Gap, text = gap.1 ++ skipBlank text :=
  ⟨⟨text.takeWhile isBlank, fun _ inside => List.mem_takeWhile_imp inside⟩,
    (List.takeWhile_append_dropWhile).symm⟩

theorem exists_lead_of_nextItem {first : Bool} {text start : Text}
    (next : nextItem first text = .ok (.inl start)) :
    ∃ lead : Lead, text = lead.text first ++ start := by
  obtain ⟨before, split⟩ := exists_gap text
  unfold nextItem at next
  split at next
  · cases next
  · cases next
  · rename_i c rest _ visible
    rw [visible] at split
    cases first with
    | true =>
      cases next
      exact ⟨⟨before, Gap.none⟩, by simp [Lead.text, Gap.none, ← split]⟩
    | false =>
      obtain ⟨behind, split'⟩ := exists_gap rest
      simp only [Bool.false_eq_true, if_false] at next
      split_ifs at next with comma
      · split at next
        · cases next
        · cases next
        · cases next
          exact ⟨⟨before, behind⟩, by simp [Lead.text, split, comma, ← split']⟩
      · cases next

theorem exists_gap_of_nextItem {first : Bool} {text rest : Text}
    (next : nextItem first text = .ok (.inr rest)) : ∃ gap : Gap, text = gap.1 ++ ']' :: rest := by
  obtain ⟨before, split⟩ := exists_gap text
  unfold nextItem at next
  split at next
  · cases next
  · rename_i bracket
    cases next
    exact ⟨before, bracket ▸ split⟩
  · split_ifs at next
    · cases next
    · split at next <;> cases next
    · cases next

theorem exists_lead_of_nextName {first : Bool} {text start : Text}
    (next : nextName first text = .ok (.inl start)) :
    ∃ lead : Lead, text = lead.text first ++ '"' :: start := by
  obtain ⟨before, split⟩ := exists_gap text
  unfold nextName at next
  split at next
  · cases next
  · cases next
  · rename_i c rest _ visible
    rw [visible] at split
    cases first with
    | true =>
      simp only [if_true] at next
      split_ifs at next with quote
      · cases next
        exact ⟨⟨before, Gap.none⟩, by simpa [Lead.text, Gap.none, quote] using split⟩
      · cases next
    | false =>
      obtain ⟨behind, split'⟩ := exists_gap rest
      simp only [Bool.false_eq_true, if_false] at next
      split_ifs at next with comma
      · split at next
        · cases next
        · rename_i quote
          cases next
          rw [quote] at split'
          exact ⟨⟨before, behind⟩, by simp [Lead.text, split, comma, split']⟩
        · cases next
        · cases next
      · cases next

theorem exists_gap_of_nextName {first : Bool} {text rest : Text}
    (next : nextName first text = .ok (.inr rest)) : ∃ gap : Gap, text = gap.1 ++ '\x7d' :: rest := by
  obtain ⟨before, split⟩ := exists_gap text
  unfold nextName at next
  split at next
  · cases next
  · rename_i brace
    cases next
    exact ⟨before, brace ▸ split⟩
  · split_ifs at next
    · cases next
    · cases next
    · split at next <;> cases next
    · cases next

theorem exists_gap_of_readColon {text rest : Text} (passed : readColon text = .ok rest) :
    ∃ gap : Gap, text = gap.1 ++ ':' :: rest := by
  obtain ⟨before, split⟩ := exists_gap text
  unfold readColon at passed
  split at passed
  · cases passed
  · rename_i colon
    cases passed
    exact ⟨before, colon ▸ split⟩
  · cases passed

/-- A text without escapes is read as a string up to its first quote. -/
theorem unescaped_of_readString {text rest s : Text} (plain : '\\' ∉ text)
    (read : readString text = .ok (s, rest)) : IsUnescaped s ∧ text = s ++ '"' :: rest := by
  unfold readString at read
  generalize text.length + 1 = fuel at read
  induction fuel generalizing text s with
  | zero => cases read
  | succ fuel ih =>
    cases text with
    | nil => cases read
    | cons c text =>
      rw [List.mem_cons, not_or] at plain
      rw [readChars] at read
      split_ifs at read with quote backslash control
      · cases read
        exact ⟨List.forall_mem_nil _, by rw [quote]; rfl⟩
      · exact absurd backslash.symm plain.1
      · cases read
      · obtain ⟨⟨ds, _⟩, readOthers, read⟩ := bind_eq_ok.mp read
        cases read
        obtain ⟨others, rfl⟩ := ih plain.2 readOthers
        exact ⟨List.forall_mem_cons.mpr ⟨⟨quote, backslash, by omega⟩, others⟩, rfl⟩

/-! ## Numbers and words -/

/-- A part of a text that consists of the characters of numbers and words. -/
def TakesWord (text rest : Text) : Prop :=
  ∃ taken, text = taken ++ rest ∧ ∀ c ∈ taken, isWordChar c = true

theorem TakesWord.refl (text : Text) : TakesWord text text := ⟨[], rfl, List.forall_mem_nil _⟩

theorem TakesWord.cons {c : Char} {text rest : Text} (first : isWordChar c = true)
    (others : TakesWord text rest) : TakesWord (c :: text) rest := by
  obtain ⟨taken, rfl, solid⟩ := others
  exact ⟨c :: taken, rfl, List.forall_mem_cons.mpr ⟨first, solid⟩⟩

theorem TakesWord.trans {text middle rest : Text} (start : TakesWord text middle)
    (later : TakesWord middle rest) : TakesWord text rest := by
  obtain ⟨taken, rfl, solid⟩ := start
  obtain ⟨more, rfl, solid'⟩ := later
  exact ⟨taken ++ more, (List.append_assoc _ _ _).symm, List.forall_mem_append.mpr ⟨solid, solid'⟩⟩

theorem isWordChar_of_isDigit {c : Char} (digit : isDigit c = true) : isWordChar c = true := by
  rw [isWordChar, digit, Bool.true_or]

theorem takesWord_span {text digits rest : Text} (span : text.span isDigit = (digits, rest)) :
    TakesWord text rest := by
  rw [List.span_eq_takeWhile_dropWhile] at span
  cases span
  exact ⟨_, List.takeWhile_append_dropWhile.symm, fun c inside =>
    isWordChar_of_isDigit (List.mem_takeWhile_imp inside)⟩

theorem takesWord_of_readWhole {text whole rest : Text} (read : readWhole text = .ok (whole, rest)) :
    TakesWord text rest := by
  unfold readWhole at read
  split at read
  · cases read
  · split_ifs at read
    · cases read
    · cases read
      exact (TakesWord.refl _).cons rfl
  · split_ifs at read
    · exact takesWord_span (Except.ok.inj read)
    · cases read

theorem takesWord_of_readDigits {text digits rest : Text}
    (read : readDigits text = .ok (digits, rest)) : TakesWord text rest := by
  unfold readDigits at read
  split at read
  · cases read
  · cases read
  · rename_i span
    cases read
    exact takesWord_span span

theorem takesWord_of_readFraction {text rest : Text} {fraction : Option Text}
    (read : readFraction text = .ok (fraction, rest)) : TakesWord text rest := by
  unfold readFraction at read
  split at read
  · obtain ⟨⟨digits, _⟩, readAll, read⟩ := bind_eq_ok.mp read
    cases read
    exact (takesWord_of_readDigits readAll).cons rfl
  · cases read
    exact .refl _

theorem takesWord_of_readSigned {text rest : Text} {exponent : Bool × Text}
    (read : readSigned text = .ok (exponent, rest)) : TakesWord text rest := by
  unfold readSigned at read
  split at read
  · obtain ⟨⟨digits, _⟩, readAll, read⟩ := bind_eq_ok.mp read
    cases read
    exact (takesWord_of_readDigits readAll).cons rfl
  · obtain ⟨⟨digits, _⟩, readAll, read⟩ := bind_eq_ok.mp read
    cases read
    exact (takesWord_of_readDigits readAll).cons rfl
  · obtain ⟨⟨digits, _⟩, readAll, read⟩ := bind_eq_ok.mp read
    cases read
    exact takesWord_of_readDigits readAll

theorem takesWord_of_readExponent {text rest : Text} {exponent : Option (Bool × Text)}
    (read : readExponent text = .ok (exponent, rest)) : TakesWord text rest := by
  unfold readExponent at read
  split at read
  · split_ifs at read with letter
    · obtain ⟨⟨_, _⟩, readAll, read⟩ := bind_eq_ok.mp read
      cases read
      rcases letter with rfl | rfl
      · exact (takesWord_of_readSigned readAll).cons rfl
      · exact (takesWord_of_readSigned readAll).cons rfl
    · cases read
      exact .refl _
  · cases read
    exact .refl _

theorem takesWord_of_readUnsigned {negative : Bool} {text rest : Text} {n : Number}
    (read : readUnsigned negative text = .ok (n, rest)) : TakesWord text rest := by
  obtain ⟨⟨whole, _⟩, readFirst, read⟩ := bind_eq_ok.mp read
  obtain ⟨⟨fraction, _⟩, readSecond, read⟩ := bind_eq_ok.mp read
  obtain ⟨⟨exponent, _⟩, readThird, read⟩ := bind_eq_ok.mp read
  dsimp only at read
  split at read
  · cases read
  · cases read
    exact ((takesWord_of_readWhole readFirst).trans (takesWord_of_readFraction readSecond)).trans
      (takesWord_of_readExponent readThird)

theorem takesWord_of_readWord {word text rest : Text} (solid : ∀ c ∈ word, isWordChar c = true)
    (read : readWord word text = .ok rest) : TakesWord text rest := by
  induction word generalizing text with
  | nil =>
    cases read
    exact .refl _
  | cons w word ih =>
    obtain ⟨first, others⟩ := List.forall_mem_cons.mp solid
    cases text with
    | nil => cases read
    | cons c text =>
      rw [readWord] at read
      split_ifs at read with same
      · exact (ih others read).cons (same ▸ first)
      · cases read

/-! ## Values -/

/-- What a reader takes for a value is written by parts. -/
def ReadsParts (readItem : Text → Scan (Json × Text)) : Prop :=
  ∀ ⦃text value rest⦄, '\\' ∉ text → readItem text = .ok (value, rest) →
    ∃ (gap : Gap) (source : Source),
      text = gap.1 ++ (Piece.textOf source.pieces ++ rest) ∧ source.value = value

theorem Blank.append {gap more : Text} (blank : Blank gap) (blank' : Blank more) :
    Blank (gap ++ more) :=
  List.forall_mem_append.mpr ⟨blank, blank'⟩

/-- White space behind what stands in front of an entry belongs to it. -/
theorem Lead.exists_append (lead : Lead) (gap : Gap) :
    ∃ lead' : Lead, ∀ first, lead'.text first = lead.text first ++ gap.1 := by
  refine ⟨⟨lead.before, lead.behind.1 ++ gap.1, lead.behind.2.append gap.2⟩, fun first => ?_⟩
  cases first with
  | true => exact (List.append_assoc _ _ _).symm
  | false => simp [Lead.text]

section

variable {readItem : Text → Scan (Json × Text)}

theorem exists_items (each : ReadsParts readItem) {fuel : Nat} {first : Bool} {text rest : Text}
    {items : List Json} (plain : '\\' ∉ text)
    (read : readItems readItem fuel first text = .ok (items, rest)) :
    ∃ (sources : List (Lead × Source)) (close : Gap),
      text = Piece.textOf (Source.itemPieces first sources) ++ (close.1 ++ ']' :: rest) ∧
        Source.itemValues sources = items := by
  induction fuel generalizing first text items with
  | zero => cases read
  | succ fuel ih =>
    obtain ⟨next, found, read⟩ := bind_eq_ok.mp read
    cases next with
    | inr rest =>
      cases read
      obtain ⟨close, rfl⟩ := exists_gap_of_nextItem found
      exact ⟨[], close, rfl, rfl⟩
    | inl start =>
      obtain ⟨⟨item, later⟩, readFirst, read⟩ := bind_eq_ok.mp read
      obtain ⟨⟨others, _⟩, readOthers, read⟩ := bind_eq_ok.mp read
      cases read
      obtain ⟨lead, rfl⟩ := exists_lead_of_nextItem found
      rw [List.mem_append, not_or] at plain
      obtain ⟨gap, source, rfl, rfl⟩ := each plain.2 readFirst
      simp only [List.mem_append, not_or] at plain
      obtain ⟨sources, close, rfl, rfl⟩ := ih plain.2.2.2 readOthers
      obtain ⟨lead', whole⟩ := lead.exists_append gap
      refine ⟨(lead', source) :: sources, close, ?_, rfl⟩
      simp [Source.itemPieces, Piece.text, whole]

theorem exists_members (each : ReadsParts readItem) {fuel : Nat} {first : Bool} {text rest : Text}
    {members : List (Text × Json)} (plain : '\\' ∉ text)
    (read : readMembers readItem fuel first text = .ok (members, rest)) :
    ∃ (sources : List (Label × Source)) (close : Gap),
      text = Piece.textOf (Source.memberPieces first sources) ++ (close.1 ++ '\x7d' :: rest) ∧
        Source.memberValues sources = members := by
  induction fuel generalizing first text members with
  | zero => cases read
  | succ fuel ih =>
    obtain ⟨next, found, read⟩ := bind_eq_ok.mp read
    cases next with
    | inr rest =>
      cases read
      obtain ⟨close, rfl⟩ := exists_gap_of_nextName found
      exact ⟨[], close, rfl, rfl⟩
    | inl start =>
      obtain ⟨⟨name, named⟩, readName, read⟩ := bind_eq_ok.mp read
      obtain ⟨valued, passed, read⟩ := bind_eq_ok.mp read
      obtain ⟨⟨value, later⟩, readFirst, read⟩ := bind_eq_ok.mp read
      obtain ⟨⟨others, _⟩, readOthers, read⟩ := bind_eq_ok.mp read
      cases read
      obtain ⟨lead, rfl⟩ := exists_lead_of_nextName found
      simp only [List.mem_append, List.mem_cons, not_or] at plain
      obtain ⟨unescaped, rfl⟩ := unescaped_of_readString plain.2.2 readName
      obtain ⟨beforeColon, rfl⟩ := exists_gap_of_readColon passed
      simp only [List.mem_append, List.mem_cons, not_or] at plain
      obtain ⟨behindColon, source, rfl, rfl⟩ := each plain.2.2.2.2.2.2 readFirst
      simp only [List.mem_append, not_or] at plain
      obtain ⟨sources, close, rfl, rfl⟩ := ih plain.2.2.2.2.2.2.2.2 readOthers
      refine ⟨(⟨lead, ⟨name, unescaped⟩, beforeColon, behindColon⟩, source) :: sources, close, ?_,
        rfl⟩
      simp [Source.memberPieces, Piece.text, Label.colon]

theorem exists_container {reader : Option (Text → Scan (Json × Text))}
    (each : ∀ readItem, reader = some readItem → ReadsParts readItem) {c : Char} {text rest : Text}
    {value : Json} (opens : c = '[' ∨ c = '\x7b') (plain : '\\' ∉ text)
    (read : readContainer reader c text = .ok (value, rest)) :
    ∃ source : Source, c :: text = Piece.textOf source.pieces ++ rest ∧ source.value = value := by
  unfold readContainer at read
  cases reader with
  | none => cases read
  | some readItem =>
    dsimp only at read
    split at read
    · rename_i bracket
      obtain ⟨⟨items, _⟩, readAll, read⟩ := bind_eq_ok.mp read
      cases read
      obtain ⟨sources, close, rfl, rfl⟩ := exists_items (each readItem rfl) plain readAll
      refine ⟨.array sources close, ?_, rfl⟩
      simp [Source.pieces, Piece.text, bracket]
    · rename_i brace
      obtain ⟨⟨members, _⟩, readAll, read⟩ := bind_eq_ok.mp read
      cases read
      obtain ⟨sources, close, rfl, rfl⟩ := exists_members (each readItem rfl) plain readAll
      refine ⟨.object sources close, ?_, rfl⟩
      simp [Source.pieces, Piece.text, opens.resolve_left brace]

theorem TakesWord.exists_source {text rest : Text} {value : Json} (taken : TakesWord text rest)
    (isWord : value.isWord = true) :
    ∃ source : Source, text = Piece.textOf source.pieces ++ rest ∧ source.value = value := by
  obtain ⟨taken, rfl, solid⟩ := taken
  exact ⟨.word ⟨taken, value, solid, isWord⟩, by simp [Source.pieces, Piece.text], rfl⟩

/-- What is read as a keyword is a word. -/
theorem exists_keyword {c : Char} {word text rest : Text} {value value' : Json}
    (solid : ∀ c' ∈ c :: word, isWordChar c' = true) (isWord : value.isWord = true)
    (read : (do return (value, ← readWord word text) : Scan (Json × Text)) = .ok (value', rest)) :
    ∃ source : Source, c :: text = Piece.textOf source.pieces ++ rest ∧ source.value = value' := by
  obtain ⟨first, others⟩ := List.forall_mem_cons.mp solid
  obtain ⟨_, readRest, read⟩ := bind_eq_ok.mp read
  cases read
  exact ((takesWord_of_readWord others readRest).cons first).exists_source isWord

theorem readsParts_readWith {reader : Option (Text → Scan (Json × Text))}
    (each : ∀ readItem, reader = some readItem → ReadsParts readItem) :
    ReadsParts (readWith reader) := by
  intro text value rest plain read
  obtain ⟨gap, split⟩ := exists_gap text
  refine ⟨gap, ?_⟩
  suffices ∃ source : Source, skipBlank text = Piece.textOf source.pieces ++ rest ∧
      source.value = value by
    obtain ⟨source, written, same⟩ := this
    exact ⟨source, written ▸ split, same⟩
  rw [split, List.mem_append, not_or] at plain
  replace plain := plain.2
  unfold readWith at read
  split at read
  · cases read
  · rename_i c others visible
    rw [visible] at plain ⊢
    rw [List.mem_cons, not_or] at plain
    split_ifs at read with container quote minus digit
    · exact exists_container each container plain.2 read
    · obtain ⟨⟨s, _⟩, readChars, read⟩ := bind_eq_ok.mp read
      cases read
      obtain ⟨unescaped, rfl⟩ := unescaped_of_readString plain.2 readChars
      exact ⟨.string ⟨s, unescaped⟩, by simp [Source.pieces, Piece.text, quote], rfl⟩
    · obtain ⟨⟨n, _⟩, readNumber, read⟩ := bind_eq_ok.mp read
      cases read
      exact ((takesWord_of_readUnsigned readNumber).cons (minus ▸ rfl)).exists_source rfl
    · obtain ⟨⟨n, _⟩, readNumber, read⟩ := bind_eq_ok.mp read
      cases read
      exact (takesWord_of_readUnsigned readNumber).exists_source rfl
    · split at read
      · exact exists_keyword (List.all_eq_true.mp rfl) rfl read
      · exact exists_keyword (List.all_eq_true.mp rfl) rfl read
      · exact exists_keyword (List.all_eq_true.mp rfl) rfl read
      · cases read

end

theorem readsParts_readValue (limit : Nat) : ReadsParts (readValue limit) := by
  induction limit with
  | zero => exact readsParts_readWith nofun
  | succ limit ih => exact readsParts_readWith fun _ given => Option.some.inj given ▸ ih

/-- A text without escapes that has a value is made of parts. -/
theorem exists_writes {content : Text} {value : Json} (read : ofText content = .ok value)
    (plain : '\\' ∉ content) : ∃ page : Page, page.Writes content value := by
  obtain ⟨⟨value, rest⟩, readFirst, read⟩ := bind_eq_ok.mp (mapError_eq_ok.mp read)
  obtain ⟨_, ends, read⟩ := bind_eq_ok.mp read
  cases read
  obtain ⟨before, body, rfl, same⟩ := readsParts_readValue _ plain readFirst
  obtain ⟨behind, split⟩ := exists_gap rest
  have blank : skipBlank rest = [] := by
    unfold readEnd at ends
    split at ends
    · assumption
    · cases ends
  rw [blank, List.append_nil] at split
  exact ⟨⟨before, body, behind⟩, by simp [Page.pieces, Piece.text, ← split], same⟩

end LocaleLint.Json
