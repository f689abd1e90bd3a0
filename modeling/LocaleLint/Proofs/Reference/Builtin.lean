import Mathlib
import LocaleLint.Proofs.Pattern.Words
import LocaleLint.Proofs.Reference.DeepSearch
import LocaleLint.Proofs.Reference.Letters

/-!
# What the built-in forms match

The regular expressions of the built-in forms, and the texts that they match: elements with a bare
`translate` attribute around a key, and keys in quotes that go through filters to `translate`.
-/

namespace LocaleLint.KeyPattern

open Pattern Pattern.Regex Fragment Unicode

/-! ## Classes -/

/-- The characters of a key in the built-in forms. -/
def IsKeyLetter (c : Char) : Prop :=
  'A' ≤ c ∧ c ≤ 'Z' ∨ 'a' ≤ c ∧ c ≤ 'z' ∨ '0' ≤ c ∧ c ≤ '9' ∨ c ∈ ['_', '.', '-']

instance (c : Char) : Decidable (IsKeyLetter c) := inferInstanceAs (Decidable (_ ∨ _))

/-- White space between the parts of a reference. -/
def IsSpace (c : Char) : Prop := Property.whiteSpace.has c = true

instance (c : Char) : Decidable (IsSpace c) := inferInstanceAs (Decidable (_ = _))

def among (chars : Text) : CharClass := .unions (chars.map .only)

/-- The class of all other characters. -/
def apartFrom (chars : Text) : CharClass := (among chars).complement

def keyLetters : CharClass :=
  .unions [.range 65 90, .range 97 122, .range 48 57, .only '_', .only '.', .only '-']

theorem has_among {chars : Text} {c : Char} : (among chars).has c = true ↔ c ∈ chars := by
  unfold among
  induction chars with
  | nil => simp [CharClass.unions, CharClass.has, CharClass.contains]
  | cons d rest ih =>
    cases rest with
    | nil => exact (has_only d c).trans (eq_comm.trans List.mem_singleton.symm)
    | cons e rest =>
      rw [List.mem_cons, ← ih, eq_comm (a := c), ← has_only]
      exact Bool.or_eq_true_iff

theorem has_apartFrom {chars : Text} {c : Char} : (apartFrom chars).has c = true ↔ c ∉ chars := by
  rw [← has_among, Bool.not_eq_true, ← Bool.not_eq_true']
  rfl

theorem has_keyLetters {c : Char} : keyLetters.has c = true ↔ IsKeyLetter c := by
  have code (d : Char) : c = d ↔ c.toNat = d.toNat := Char.toNat_inj.symm
  have order (d e : Char) : d ≤ e ↔ d.toNat ≤ e.toNat := Iff.rfl
  simp only [keyLetters, CharClass.has, CharClass.unions, CharClass.contains, CharClass.only,
    Bool.or_eq_true, Bool.and_eq_true, decide_eq_true_eq, IsKeyLetter, List.mem_cons,
    List.not_mem_nil, or_false, code, order, Nat.le_antisymm_iff]
  simp only [Char.reduceToNat]
  omega

theorem IsKeyLetter.notMem {c : Char} (letter : IsKeyLetter c) : c ∉ ['<', '\'', '"'] := by
  simp only [List.mem_cons, List.not_mem_nil, or_false]
  rintro (rfl | rfl | rfl) <;> exact absurd letter (by decide)

theorem IsSpace.notMem {c : Char} (space : IsSpace c) : c ∉ ['<', '>', '|', '\'', '"'] := by
  simp only [List.mem_cons, List.not_mem_nil, or_false]
  rintro (rfl | rfl | rfl | rfl | rfl) <;> exact absurd space (by decide)

theorem IsSpace.not_quote {c : Char} (space : IsSpace c) : c ∉ ['\'', '"'] :=
  fun quote => space.notMem (List.mem_append_right ['<', '>', '|'] quote)

theorem IsKeyLetter.not_isSpace {c : Char} (letter : IsKeyLetter c) : ¬ IsSpace c := by
  have small : c.toNat < 128 := by
    have order (d e : Char) : d ≤ e ↔ d.toNat ≤ e.toNat := Iff.rfl
    have code (d : Char) : c = d ↔ c.toNat = d.toNat := Char.toNat_inj.symm
    simp only [IsKeyLetter, List.mem_cons, List.not_mem_nil, or_false, order, code,
      Char.reduceToNat] at letter
    omega
  have apart : ∀ n < 128, keyLetters.contains n = true → Property.whiteSpace.contains n = false := by
    decide
  rw [IsSpace, CharClass.has, apart _ small (has_keyLetters.mpr letter)]
  simp

/-! ## The regular expressions of the forms -/

def anyOf (greedy : Bool) (cls : CharClass) : Regex := .optional greedy (.plus greedy (.one cls))

def keyGroup : Regex := .capture 1 (.plus true (.one keyLetters))

/-- The letters of the directive and the filter. -/
def translate : Text := ['t', 'r', 'a', 'n', 's', 'l', 'a', 't', 'e']

/-- What is in front of the key in an element. -/
def elementFront : List Regex :=
  [.one (.only '<'), anyOf false (apartFrom ['<', '>']), .one Property.whiteSpace,
    .alt (.literal translate) (.literal ['T', 'R', 'A', 'N', 'S', 'L', 'A', 'T', 'E']),
    .optional true (.seq (.one Property.whiteSpace) (anyOf true (apartFrom ['<', '>']))),
    .one (.only '>'), anyOf true Property.whiteSpace]

/-- What is behind the key in an element. -/
def elementBack : List Regex :=
  [anyOf true Property.whiteSpace, .one (.only '<'), .one (.only '/')]

/-- One or two quotes. -/
def someQuotes : Regex :=
  .seq (.one (among ['"', '\''])) (.optional true (.one (among ['"', '\''])))

/-- What is in front of the key in an attribute. -/
def attributeFront : List Regex :=
  [.alt (.literal ('[' :: translate ++ [']']))
      (.seqs (.look (.wordBoundary Property.word) :: translate.map fun c => .one (.only c))),
    .one (.only '='), someQuotes]

/-- A filter that a key goes through. -/
def filter : Regex :=
  .seqs [.one (.only '|'), anyOf true Property.whiteSpace, .plus true (.one Property.word),
    anyOf true Property.whiteSpace,
    .optional true (.seq (.one (.only ':')) (anyOf true (apartFrom ['|', '\x7d', '\'', '"'])))]

/-- What is behind the key in quotes, up to the last filter. -/
def pipeBack : List Regex :=
  [.one (among ['\'', '"']), anyOf true Property.whiteSpace, .optional false (.plus false filter),
    .one (.only '|'), anyOf true Property.whiteSpace] ++ translate.map fun c => .one (.only c)

/-- The regular expression of a form. -/
def regex : BuiltinForm → Regex
  | .directiveContent => .seqs (elementFront ++ keyGroup :: elementBack)
  | .directiveAttribute => .seqs (attributeFront ++ [keyGroup, someQuotes])
  | .pipe =>
    .seqs (.one (among ['\'', '"']) :: keyGroup ::
      (pipeBack ++ [.look (.wordBoundary Property.word)]))

def builtinPattern : Pattern :=
  ⟨(Regex.alts ([(0, regex .directiveContent), (1, regex .directiveAttribute),
    (2, regex .pipe)].map fun branch => branch.2.shift branch.1)).program, 3, []⟩

set_option maxRecDepth 100000 in
theorem compile_form (form : BuiltinForm) :
    Pattern.compile flags form.source = .ok ⟨(regex form).program, 1, []⟩ := by
  rw [form.source_eq_letters]
  cases form <;> rfl

set_option maxRecDepth 100000 in
theorem compile_forms :
    Pattern.compile flags (combine (BuiltinForm.all.map BuiltinForm.source)) =
      .ok builtinPattern := by
  rw [funext BuiltinForm.source_eq_letters]
  rfl

/-- The pattern of a search that is not deep and has no patterns of the user. -/
theorem ofFragments_builtin (keys : List Text) :
    ofFragments (compose keys [] false) = .ok ⟨some builtinPattern, 3⟩ := by
  have composed : compose keys [] false = BuiltinForm.all.map .builtin := rfl
  refine (ofFragments_eq_ok (compose_shallow_ne_nil keys [])).mpr
    ⟨fun fragment inside => ?_, builtinPattern, ?_, rfl⟩
  · rw [composed] at inside
    obtain ⟨form, -, rfl⟩ := List.mem_map.mp inside
    exact ⟨_, compile_form form⟩
  · rw [composed, List.map_map]
    exact compile_forms

/-! ## Elements -/

/-- An element whose content is a key: an opening tag with a bare `translate` attribute, a key with
white space around it, and the beginning of a closing tag. -/
structure KeyElement where
  attributes : Text
  gap : Char
  directive : Text
  more : Text
  before : Text
  key : Text
  after : Text
  attributes_plain : ∀ c ∈ attributes, c ∉ ['<', '>']
  gap_space : IsSpace gap
  directive_eq : directive = translate ∨ directive = ['T', 'R', 'A', 'N', 'S', 'L', 'A', 'T', 'E']
  more_plain : ∀ c ∈ more, c ∉ ['<', '>']
  more_space : ∀ c ∈ more.head?, IsSpace c
  before_space : ∀ c ∈ before, IsSpace c
  key_filled : key ≠ []
  key_letters : ∀ c ∈ key, IsKeyLetter c
  after_space : ∀ c ∈ after, IsSpace c

namespace KeyElement

/-- The opening tag of an element without its ends. -/
def tag (element : KeyElement) : Text :=
  element.attributes ++ element.gap :: (element.directive ++ element.more)

def front (element : KeyElement) : Text := '<' :: (element.tag ++ '>' :: element.before)

/-- An element as it is written, up to the slash of its closing tag. -/
def text (element : KeyElement) : Text :=
  element.front ++ (element.key ++ (element.after ++ ['<', '/']))

end KeyElement

theorem mem_language_more {word : Text} :
    word ∈ (Regex.optional true (.seq (.one Property.whiteSpace)
        (anyOf true (apartFrom ['<', '>'])))).language ↔
      (∀ c ∈ word, c ∉ ['<', '>']) ∧ ∀ c ∈ word.head?, IsSpace c := by
  constructor
  · rintro (nothing | ⟨_, ⟨c, space, rfl⟩, rest, plain, rfl⟩)
    · cases nothing
      exact ⟨nofun, nofun⟩
    · have plain' := mem_language_any.mp plain
      refine ⟨List.forall_mem_cons.mpr ⟨fun inside => ?_, fun d inside =>
        has_apartFrom.mp (plain' d inside)⟩, fun d head => Option.some.inj head ▸ space⟩
      exact IsSpace.notMem space (List.mem_append_left ['|', '\'', '"'] inside)
  · rintro ⟨plain, space⟩
    cases word with
    | nil => exact .inl rfl
    | cons c rest =>
      refine .inr ⟨[c], ⟨c, space c rfl, rfl⟩, rest, mem_language_any.mpr fun d inside => ?_, rfl⟩
      exact has_apartFrom.mpr (plain d (List.mem_cons_of_mem c inside))

theorem mem_language_elementFront {word : Text} : word ∈ (seqs elementFront).language ↔
    ∃ attributes gap directive more before, word =
        '<' :: ((attributes ++ gap :: (directive ++ more)) ++ '>' :: before) ∧
      (∀ c ∈ attributes, c ∉ ['<', '>']) ∧ IsSpace gap ∧
      (directive = translate ∨ directive = ['T', 'R', 'A', 'N', 'S', 'L', 'A', 'T', 'E']) ∧
      ((∀ c ∈ more, c ∉ ['<', '>']) ∧ ∀ c ∈ more.head?, IsSpace c) ∧
      ∀ c ∈ before, IsSpace c := by
  simp only [elementFront, mem_language_seqs_cons, mem_language_seqs_nil, mem_language_only,
    mem_language_more]
  constructor
  · rintro ⟨_, rfl, _, ⟨attributes, plain, _, ⟨_, ⟨gap, space, rfl⟩, _,
      ⟨directive, known, _, ⟨more, plain', _, ⟨_, rfl, _, ⟨before, spaces, _, rfl, rfl⟩, rfl⟩,
        rfl⟩, rfl⟩, rfl⟩, rfl⟩, rfl⟩
    refine ⟨attributes, gap, directive, more, before, by simp, fun c inside =>
      has_apartFrom.mp (mem_language_any.mp plain c inside), space,
      known.imp mem_language_literal.mp mem_language_literal.mp, plain',
      mem_language_any.mp spaces⟩
  · rintro ⟨attributes, gap, directive, more, before, rfl, plain, space, known, plain', spaces⟩
    refine ⟨_, rfl, _, ⟨attributes, mem_language_any.mpr fun c inside =>
      has_apartFrom.mpr (plain c inside), _, ⟨_, ⟨gap, space, rfl⟩, _, ⟨directive,
        known.imp mem_language_literal.mpr mem_language_literal.mpr, _, ⟨more, plain', _,
          ⟨_, rfl, _, ⟨before, mem_language_any.mpr spaces, _, rfl, rfl⟩, rfl⟩, rfl⟩, rfl⟩,
        rfl⟩, rfl⟩, by simp⟩

theorem mem_language_elementBack {word : Text} : word ∈ (seqs elementBack).language ↔
    ∃ after, word = after ++ ['<', '/'] ∧ ∀ c ∈ after, IsSpace c := by
  simp only [elementBack, mem_language_seqs_cons, mem_language_seqs_nil, mem_language_only]
  constructor
  · rintro ⟨after, spaces, _, ⟨_, rfl, _, ⟨_, rfl, _, rfl, rfl⟩, rfl⟩, rfl⟩
    exact ⟨after, rfl, mem_language_any.mp spaces⟩
  · rintro ⟨after, rfl, spaces⟩
    exact ⟨after, mem_language_any.mpr spaces, _, ⟨_, rfl, _, ⟨_, rfl, _, rfl, rfl⟩, rfl⟩, rfl⟩

/-- The group of a key matches one key letter or more, and notes where they are. -/
theorem matches_keyGroup {p q : Place} {marks : Marks} : keyGroup.Matches p q marks ↔
    ∃ key, key ≠ [] ∧ (∀ c ∈ key, IsKeyLetter c) ∧ p.Reads key q ∧
      marks = [(3, q.position), (2, p.position)] := by
  have simple : (Regex.plus true (.one keyLetters)).IsSimple := trivial
  constructor
  · rintro (_ | _ | _ | inside)
    obtain ⟨rfl, key, word, reads⟩ := simple.matches_iff.mp inside
    obtain ⟨filled, letters⟩ := mem_language_rounds.mp word
    exact ⟨key, filled, fun c inside => has_keyLetters.mp (letters c inside), reads, rfl⟩
  · rintro ⟨key, filled, letters, reads, rfl⟩
    refine .capture (simple.matches_of_word (mem_language_rounds.mpr ⟨filled, ?_⟩) reads)
    exact fun c inside => has_keyLetters.mpr (letters c inside)

theorem isSimple_elementFront : (seqs elementFront).IsSimple := by
  refine isSimple_seqs ?_
  simp only [elementFront, anyOf, List.forall_mem_cons, List.not_mem_nil, IsSimple,
    isSimple_literal, and_self, false_imp_iff, implies_true]

theorem isSimple_elementBack : (seqs elementBack).IsSimple := by
  refine isSimple_seqs ?_
  simp only [elementBack, anyOf, List.forall_mem_cons, List.not_mem_nil, IsSimple, and_self,
    false_imp_iff, implies_true]

/-- The first form matches elements whose content is a key, and notes where the key is. -/
theorem matches_directiveContent {p q : Place} {marks : Marks} :
    (regex .directiveContent).Matches p q marks ↔ ∃ element : KeyElement, p.Reads element.text q ∧
      marks = [(3, p.position + element.front.length + element.key.length),
        (2, p.position + element.front.length)] := by
  simp only [regex, matches_seqs_append, matches_seqs_cons, matches_keyGroup,
    isSimple_elementFront.matches_iff, isSimple_elementBack.matches_iff]
  constructor
  · rintro ⟨mid, _, _, ⟨rfl, front, opens, before⟩,
      ⟨mid', _, _, ⟨key, filled, letters, reads, rfl⟩, ⟨rfl, back, closes, behind⟩, rfl⟩, rfl⟩
    obtain ⟨attributes, gap, directive, more, space, rfl, plain, isGap, known,
      ⟨plain', isSpace'⟩, spaces⟩ := mem_language_elementFront.mp opens
    obtain ⟨after, rfl, spaces'⟩ := mem_language_elementBack.mp closes
    refine ⟨⟨attributes, gap, directive, more, space, key, after, plain, isGap, known, plain',
      isSpace', spaces, filled, letters, spaces'⟩, ?_, ?_⟩
    · exact Place.reads_append.mpr ⟨mid, before, Place.reads_append.mpr ⟨mid', reads, behind⟩⟩
    · rw [reads.position, before.position]
      rfl
  · rintro ⟨element, reads, rfl⟩
    obtain ⟨mid, before, later⟩ := Place.reads_append.mp reads
    obtain ⟨mid', inside, behind⟩ := Place.reads_append.mp later
    refine ⟨mid, [], _, ⟨rfl, element.front, mem_language_elementFront.mpr
        ⟨_, _, _, _, _, rfl, element.attributes_plain, element.gap_space, element.directive_eq,
          ⟨element.more_plain, element.more_space⟩, element.before_space⟩, before⟩,
      ⟨mid', _, [], ⟨element.key, element.key_filled, element.key_letters, inside, rfl⟩,
        ⟨rfl, _, mem_language_elementBack.mpr ⟨element.after, rfl, element.after_space⟩, behind⟩,
        rfl⟩, ?_⟩
    rw [inside.position, before.position]
    rfl

/-! ## Keys in quotes -/

/-- A filter that a key goes through: a name with white space around it, and maybe an argument. -/
structure Filter where
  before : Text
  name : Text
  after : Text
  argument : Option Text
  before_space : ∀ c ∈ before, IsSpace c
  name_filled : name ≠ []
  name_word : ∀ c ∈ name, Property.word.has c = true
  after_space : ∀ c ∈ after, IsSpace c
  argument_plain : ∀ text ∈ argument, ∀ c ∈ text, c ∉ ['|', '\x7d', '\'', '"']

def Filter.text (filter : Filter) : Text :=
  '|' :: (filter.before ++ (filter.name ++ (filter.after ++
    filter.argument.elim [] fun text => ':' :: text)))

theorem mem_language_argument {word : Text} :
    word ∈ (Regex.optional true (.seq (.one (.only ':'))
        (anyOf true (apartFrom ['|', '\x7d', '\'', '"'])))).language ↔
      ∃ argument : Option Text, word = argument.elim [] (fun text => ':' :: text) ∧
        ∀ text ∈ argument, ∀ c ∈ text, c ∉ ['|', '\x7d', '\'', '"'] := by
  constructor
  · rintro (nothing | ⟨_, colon, text, plain, rfl⟩)
    · exact ⟨none, nothing, nofun⟩
    · refine ⟨some text, ?_, ?_⟩
      · rw [mem_language_only.mp colon]
        rfl
      · intro _ same c inside
        cases same
        exact has_apartFrom.mp (mem_language_any.mp plain c inside)
  · rintro ⟨argument, rfl, plain⟩
    cases argument with
    | none => exact .inl rfl
    | some text =>
      exact .inr ⟨_, mem_language_only.mpr rfl, text, mem_language_any.mpr fun c inside =>
        has_apartFrom.mpr (plain text rfl c inside), rfl⟩

theorem mem_language_filter {word : Text} :
    word ∈ (filter : Regex).language ↔ ∃ filter : Filter, word = filter.text := by
  rw [filter]
  simp only [mem_language_seqs_cons, mem_language_seqs_nil, mem_language_only,
    mem_language_argument]
  constructor
  · rintro ⟨_, rfl, _, ⟨before, spaces, _, ⟨name, word, _, ⟨after, spaces', _,
      ⟨_, ⟨argument, rfl, plain⟩, _, rfl, rfl⟩, rfl⟩, rfl⟩, rfl⟩, rfl⟩
    obtain ⟨filled, letters⟩ := mem_language_rounds.mp word
    refine ⟨⟨before, name, after, argument, mem_language_any.mp spaces, filled, letters,
      mem_language_any.mp spaces', plain⟩, ?_⟩
    rw [List.append_nil]
    rfl
  · rintro ⟨filter, rfl⟩
    refine ⟨_, rfl, _, ⟨_, mem_language_any.mpr filter.before_space, _, ⟨_,
      mem_language_rounds.mpr ⟨filter.name_filled, filter.name_word⟩, _, ⟨_,
        mem_language_any.mpr filter.after_space, _,
          ⟨_, ⟨filter.argument, rfl, filter.argument_plain⟩, _, rfl, rfl⟩, rfl⟩, rfl⟩, rfl⟩, ?_⟩
    rw [List.append_nil]
    rfl

/-- A key in quotes that goes through filters to `translate`. -/
structure PipedKey where
  opening : Char
  key : Text
  closing : Char
  gap : Text
  filters : List Filter
  last : Text
  opening_quote : opening ∈ ['\'', '"']
  key_filled : key ≠ []
  key_letters : ∀ c ∈ key, IsKeyLetter c
  closing_quote : closing ∈ ['\'', '"']
  gap_space : ∀ c ∈ gap, IsSpace c
  last_space : ∀ c ∈ last, IsSpace c

namespace PipedKey

/-- What is between a key in quotes and its last filter. -/
def middle (piped : PipedKey) : Text := piped.gap ++ piped.filters.flatMap Filter.text

/-- A key in quotes and its filters as they are written. -/
def text (piped : PipedKey) : Text :=
  piped.opening :: (piped.key ++
    piped.closing :: (piped.middle ++ '|' :: (piped.last ++ translate)))

end PipedKey

theorem mem_language_pipeBack {word : Text} : word ∈ (seqs pipeBack).language ↔
    ∃ closing gap filters last, word =
        closing :: ((gap ++ List.flatMap Filter.text filters) ++ '|' :: (last ++ translate)) ∧
      closing ∈ ['\'', '"'] ∧ (∀ c ∈ gap, IsSpace c) ∧ ∀ c ∈ last, IsSpace c := by
  have letters : seqs (translate.map fun c => Regex.one (.only c)) = literal translate := rfl
  simp only [pipeBack, mem_language_seqs_append, mem_language_seqs_cons, mem_language_seqs_nil,
    mem_language_only, letters, mem_language_literal,
    mem_language_repeated fun _ => mem_language_filter]
  constructor
  · rintro ⟨_, ⟨_, ⟨closing, quote, rfl⟩, _, ⟨gap, spaces, _, ⟨_, ⟨filters, rfl⟩, _,
      ⟨_, rfl, _, ⟨last, spaces', _, rfl, rfl⟩, rfl⟩, rfl⟩, rfl⟩, rfl⟩, _, rfl, rfl⟩
    exact ⟨closing, gap, filters, last, by simp, has_among.mp quote, mem_language_any.mp spaces,
      mem_language_any.mp spaces'⟩
  · rintro ⟨closing, gap, filters, last, rfl, quote, spaces, spaces'⟩
    exact ⟨_, ⟨_, ⟨closing, has_among.mpr quote, rfl⟩, _, ⟨gap, mem_language_any.mpr spaces, _,
      ⟨_, ⟨filters, rfl⟩, _, ⟨_, rfl, _, ⟨last, mem_language_any.mpr spaces', _, rfl, rfl⟩, rfl⟩,
        rfl⟩, rfl⟩, rfl⟩, _, rfl, by simp⟩

theorem isSimple_pipeBack : (seqs pipeBack).IsSimple := by
  refine isSimple_seqs ?_
  simp only [pipeBack, filter, translate, anyOf, seqs, List.map_cons, List.map_nil,
    List.cons_append, List.nil_append, List.forall_mem_cons, List.not_mem_nil, IsSimple, and_self,
    false_imp_iff, implies_true]

/-- Behind a text that ends with `translate`, a word ends unless more of it follows. -/
theorem satisfies_wordBoundary {p q : Place} {front : Text}
    (reads : p.Reads (front ++ translate) q) :
    q.satisfies (.wordBoundary Property.word) = !q.isBefore Property.word := by
  have last : q.before = some 'e' := reads.before_eq (by simp [translate])
  have letter : Property.word.has 'e' = true := by decide
  rw [Place.satisfies, Place.isAfter, last, Option.any_some, letter]
  cases q.isBefore Property.word <;> rfl

namespace PipedKey

/-- What is in front of the last letters of a key in quotes and its filters. -/
def front (piped : PipedKey) : Text :=
  piped.opening :: (piped.key ++ piped.closing :: (piped.middle ++ '|' :: piped.last))

theorem text_eq (piped : PipedKey) : piped.text = piped.front ++ translate := by
  simp [text, front]

end PipedKey

/-- The last form matches keys in quotes that go through filters to `translate`, unless more of a
word follows, and notes where the key is. -/
theorem matches_pipe {p q : Place} {marks : Marks} :
    (regex .pipe).Matches p q marks ↔ ∃ piped : PipedKey, p.Reads piped.text q ∧
      q.isBefore Property.word = false ∧
      marks = [(3, p.position + 1 + piped.key.length), (2, p.position + 1)] := by
  have quote : (Regex.one (among ['\'', '"'])).IsSimple := trivial
  constructor
  · intro this
    obtain ⟨opened, _, _, first, rest, rfl⟩ := matches_seqs_cons.mp this
    obtain ⟨mid, _, _, group, rest', rfl⟩ := matches_seqs_cons.mp rest
    obtain ⟨closed, _, _, back, stops, rfl⟩ := matches_seqs_append.mp rest'
    obtain ⟨rfl, _, ⟨opening, quoted, rfl⟩, before⟩ := quote.matches_iff.mp first
    obtain ⟨key, filled, letters, inside, rfl⟩ := matches_keyGroup.mp group
    obtain ⟨rfl, _, word, behind⟩ := isSimple_pipeBack.matches_iff.mp back
    obtain ⟨closing, gap, filters, last, rfl, quoted', spaces, spaces'⟩ :=
      mem_language_pipeBack.mp word
    let piped : PipedKey := ⟨opening, key, closing, gap, filters, last, has_among.mp quoted, filled,
      letters, quoted', spaces, spaces'⟩
    have reads : p.Reads piped.text closed :=
      Place.reads_append.mpr ⟨opened, before, Place.reads_append.mpr ⟨mid, inside, behind⟩⟩
    obtain _ | _ | holds := stops
    rw [satisfies_wordBoundary (piped.text_eq ▸ reads), Bool.not_eq_true'] at holds
    refine ⟨piped, reads, holds, ?_⟩
    rw [inside.position, before.position]
    rfl
  · rintro ⟨piped, reads, stops, rfl⟩
    have holds := satisfies_wordBoundary (piped.text_eq ▸ reads)
    rw [stops] at holds
    obtain ⟨opened, before, later⟩ := Place.reads_append (s := [piped.opening]).mp reads
    obtain ⟨mid, inside, behind⟩ := Place.reads_append.mp later
    have back := isSimple_pipeBack.matches_of_word (mem_language_pipeBack.mpr
      ⟨piped.closing, piped.gap, piped.filters, piped.last, rfl, piped.closing_quote,
        piped.gap_space, piped.last_space⟩) behind
    refine matches_seqs_cons.mpr ⟨opened, [], _, quote.matches_of_word
      ⟨piped.opening, has_among.mpr piped.opening_quote, rfl⟩ before, matches_seqs_cons.mpr
        ⟨mid, _, [], matches_keyGroup.mpr ⟨piped.key, piped.key_filled, piped.key_letters, inside,
          rfl⟩, matches_seqs_append.mpr ⟨q, [], [], back, .look holds, rfl⟩, rfl⟩, ?_⟩
    rw [inside.position, before.position]
    rfl

/-! ## Attributes -/

/-- The second form matches only texts that begin with a bracket or a letter, and hold a quote. -/
theorem mem_language_directiveAttribute {word : Text}
    (inside : word ∈ (regex .directiveAttribute).language) :
    (∃ c ∈ ['[', 't'], word.head? = some c) ∧ ∃ c ∈ word, c ∈ ['"', '\''] := by
  obtain ⟨_, front, _, -, rfl⟩ := mem_language_seqs_append.mp inside
  simp only [attributeFront, mem_language_seqs_cons, mem_language_seqs_nil, mem_language_only]
    at front
  obtain ⟨name, known, _, ⟨_, rfl, _, ⟨_, ⟨_, ⟨quote, quoted, rfl⟩, more, -, rfl⟩, _, rfl, rfl⟩,
    rfl⟩, rfl⟩ := front
  refine ⟨?_, quote, by simp, has_among.mp quoted⟩
  rcases known with bracketed | bare
  · rw [mem_language_literal.mp bracketed]
    exact ⟨'[', by simp, rfl⟩
  · obtain ⟨_, nothing, _, letters, rfl⟩ := mem_language_seqs_cons.mp bare
    cases nothing
    rw [mem_language_literal.mp letters]
    exact ⟨'t', by simp, rfl⟩

end LocaleLint.KeyPattern
