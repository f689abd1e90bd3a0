import Mathlib
import LocaleLint.Proofs.Reference.Builtin
import LocaleLint.Proofs.Text.Splitting

/-!
# References that are found

A search with the built-in forms finds the key of an element, and a key in quotes that goes through
any number of filters to `translate`. The forms know nothing of each other, so an element in the
argument of a filter is found too, if a filter `translate` in front of it ends the reference.
-/

namespace LocaleLint.KeyPattern

open Pattern Pattern.Regex Fragment Unicode

theorem matchAt_builtin (place : Place) : matchAt builtinPattern.program place =
    (matchAt (regex .directiveContent).program place).or
      (((matchAt (regex .directiveAttribute).program place).map (Match.shift 1)).or
        ((matchAt (regex .pipe).program place).map (Match.shift 2))) := by
  have alts := matchAt_alts (List.cons_ne_nil (0, regex .directiveContent)
    [(1, regex .directiveAttribute), (2, regex .pipe)]) place
  refine alts.trans ?_
  rw [List.findSome?_cons, List.findSome?_cons, List.findSome?_cons, List.findSome?_nil]
  dsimp only
  rw [show Match.shift 0 = id from funext Match.shift_zero, Option.map_id_fun, id_eq]
  cases matchAt (regex .directiveContent).program place <;>
    cases matchAt (regex .directiveAttribute).program place <;>
      cases matchAt (regex .pipe).program place <;> rfl

/-- The key of a match of a form is where its group is. -/
theorem keyOf?_builtin {content front key after : Text} {position : Nat} {m : Match}
    (offset : Nat) (small : offset < 3) (inside : position ≤ content.length)
    (split : content.drop position = front ++ (key ++ after)) (filled : key ≠ [])
    (marked : m.marks =
      [(3, position + front.length + key.length), (2, position + front.length)]) :
    keyOf? builtinPattern content (m.shift offset) =
      some ⟨key, Text.utf8Length (content.take position ++ front)⟩ := by
  have more := List.length_pos_of_ne_nil filled
  have apart : (position + front.length != position + front.length + key.length) = true := by
    rw [bne_iff_ne]
    omega
  have whole : content = (content.take position ++ front) ++ (key ++ after) := by
    rw [List.append_assoc, ← split, List.take_append_drop]
  have begins : (content.take position ++ front).length = position + front.length := by
    rw [List.length_append, List.length_take_of_le inside]
  have here : keyAt content (position + front.length, position + front.length + key.length) =
      ⟨key, Text.utf8Length (content.take position ++ front)⟩ := by
    generalize content.take position ++ front = before at whole begins ⊢
    rw [keyAt, whole, ← begins, List.drop_left, Nat.add_sub_cancel_left, List.take_left,
      List.take_left]
  rw [← here]
  obtain rfl | rfl | rfl : offset = 0 ∨ offset = 1 ∨ offset = 2 := by omega
  all_goals
    simp [keyOf?, builtinPattern, Pattern.namedGroup?, firstFilled?, Match.group?, Match.shift,
      Marks.shift, List.range_succ, List.lookup, marked, apart]

theorem extract_builtin (content : Text) : extract ⟨some builtinPattern, 3⟩ content =
    (builtinPattern.matchesIn content).filterMap (keyOf? builtinPattern content) := rfl

/-- Where a pattern matches at the start of a text, the scan begins with that match. -/
theorem matchesIn_of_start {pattern : Pattern} {text : Text} {m : Match}
    (here : matchAt pattern.program (.start text) = some m) :
    pattern.matchesIn text = m :: matchesFrom pattern.program (text.length + 1)
      ((Place.start text).advance m.stop) (some m.stop) := by
  obtain ⟨first, near, found, at_, -, scanned⟩ :=
    matchesFrom_succ (text.length + 1) (.inl rfl) (Nat.zero_le _) here fun _ _ => rfl
  obtain rfl := Nat.le_zero.mp near
  cases here.symm.trans at_
  exact scanned

theorem KeyElement.tag_closed (element : KeyElement) : ∀ c ∈ element.tag, c ≠ '>' := by
  have plain {c : Char} (apart : c ∉ ['<', '>']) : c ≠ '>' := by
    rintro rfl
    exact apart (by simp)
  have gap : element.gap ≠ '>' := by
    intro same
    have := element.gap_space.notMem
    simp [same] at this
  intro c inside
  rw [tag, List.mem_append, List.mem_cons, List.mem_append] at inside
  rcases inside with inside | rfl | inside | inside
  · exact plain (element.attributes_plain c inside)
  · exact gap
  · rintro rfl
    rcases element.directive_eq with same | same <;> rw [same] at inside <;>
      exact absurd inside (by decide)
  · exact plain (element.more_plain c inside)

/-- What is behind the key of an element does not begin with a key letter. -/
theorem KeyElement.not_letter_after (element : KeyElement) (rest : Text) :
    ∀ c ∈ (element.after ++ '<' :: '/' :: rest).head?, ¬ IsKeyLetter c := by
  intro c head
  cases after : element.after with
  | nil =>
    rw [after] at head
    cases head
    decide
  | cons d _ =>
    have space := element.after_space d (by rw [after]; exact List.mem_cons_self)
    rw [after] at head
    cases head
    exact fun letter => letter.not_isSpace space

/-- A text begins with one element at most. -/
theorem KeyElement.unique {element element' : KeyElement} {rest rest' : Text}
    (same : element.text ++ rest = element'.text ++ rest') :
    element.front = element'.front ∧ element.key = element'.key := by
  have key_head {element : KeyElement} (rest : Text) :
      ∀ c ∈ (element.key ++ rest).head?, ¬ IsSpace c := by
    intro c head
    obtain ⟨d, key, split⟩ := List.exists_cons_of_ne_nil element.key_filled
    have letter := element.key_letters d (by rw [split]; exact List.mem_cons_self)
    rw [split] at head
    cases head
    exact letter.not_isSpace
  have shape (element : KeyElement) (rest : Text) : element.text ++ rest =
      '<' :: (element.tag ++ '>' :: (element.before ++ (element.key ++
        (element.after ++ '<' :: '/' :: rest)))) := by
    simp [text, front]
  rw [shape, shape] at same
  obtain ⟨tags, behind⟩ := Text.append_inj_of_forall element.tag_closed element'.tag_closed
    (by simp) (by simp) (List.cons.inj same).2
  obtain ⟨spaces, behind⟩ := Text.append_inj_of_forall element.before_space element'.before_space
    (key_head _) (key_head _) (List.cons.inj behind).2
  obtain ⟨keys, -⟩ := Text.append_inj_of_forall element.key_letters element'.key_letters
    (element.not_letter_after rest) (element'.not_letter_after rest') behind
  exact ⟨by rw [front, front, tags, spaces], keys⟩

section
variable {content : Text} {position : Nat} {m : Match} (inside : position ≤ content.length)
include inside

theorem rest_of_reads {text : Text} {stop : Place}
    (reads : ((Place.start content).advance position).Reads text stop) :
    content.drop position = text ++ stop.rest ∧ stop.position = position + text.length := by
  rw [← Place.position_advance_start inside, ← reads.position, and_iff_left rfl, ← reads.1,
    Place.rest_advance, Place.position_advance_start inside]
  rfl

/-- What the first form finds is an element, and its key. -/
theorem exists_element (found : matchAt (regex .directiveContent).program
      ((Place.start content).advance position) = some m) :
    ∃ (element : KeyElement) (rest : Text), content.drop position = element.text ++ rest ∧
      keyOf? builtinPattern content m =
        some ⟨element.key, Text.utf8Length (content.take position ++ element.front)⟩ := by
  obtain ⟨stop, this, -, -⟩ := matches_of_matchAt found
  obtain ⟨element, reads, marks⟩ := matches_directiveContent.mp this
  obtain ⟨split, -⟩ := rest_of_reads inside reads
  rw [Place.position_advance_start inside] at marks
  have parts : content.drop position =
      element.front ++ (element.key ++ (element.after ++ ['<', '/'] ++ stop.rest)) := by
    rw [split, KeyElement.text]
    simp only [List.append_assoc]
  have key := keyOf?_builtin 0 (by omega) inside parts element.key_filled marks
  rw [Match.shift_zero] at key
  exact ⟨element, stop.rest, split, key⟩

/-- What the last form finds is a key in quotes, and its key. -/
theorem exists_piped (found : matchAt (regex .pipe).program
      ((Place.start content).advance position) = some m) :
    ∃ (piped : PipedKey) (rest : Text), content.drop position = piped.text ++ rest ∧
      rest.head?.any Property.word.has = false ∧ m.stop = position + piped.text.length ∧
      keyOf? builtinPattern content (m.shift 2) =
        some ⟨piped.key, Text.utf8Length (content.take position ++ [piped.opening])⟩ := by
  obtain ⟨stop, this, -, ends⟩ := matches_of_matchAt found
  obtain ⟨piped, reads, stops, marks⟩ := matches_pipe.mp this
  obtain ⟨split, behind⟩ := rest_of_reads inside reads
  rw [Place.position_advance_start inside] at marks
  have parts : content.drop position = [piped.opening] ++ (piped.key ++
      (piped.closing :: (piped.middle ++ '|' :: (piped.last ++ translate)) ++ stop.rest)) := by
    rw [split, PipedKey.text]
    simp
  have key := keyOf?_builtin 2 (by omega) inside parts piped.key_filled marks
  exact ⟨piped, stop.rest, split, stops, ends.trans behind, key⟩

/-- What the second form finds begins with a bracket or a letter, and holds a quote. -/
theorem exists_attribute (found : matchAt (regex .directiveAttribute).program
      ((Place.start content).advance position) = some m) :
    (∃ c ∈ ['[', 't'], (content.drop position).head? = some c) ∧
      ∃ c ∈ content.drop position, c ∈ ['"', '\''] := by
  obtain ⟨stop, this, -, -⟩ := matches_of_matchAt found
  obtain ⟨word, known, reads⟩ := this.exists_word
  obtain ⟨split, -⟩ := rest_of_reads inside reads
  obtain ⟨⟨c, first, head⟩, quote, held, quoted⟩ := mem_language_directiveAttribute known
  rw [split]
  refine ⟨⟨c, first, ?_⟩, quote, List.mem_append_left _ held, quoted⟩
  rw [List.head?_append, head, Option.some_or]

end

/-- The key of an element is found first. -/
theorem head?_extract_element (element : KeyElement) (rest : Text) :
    (extract ⟨some builtinPattern, 3⟩ (element.text ++ rest)).head? =
      some ⟨element.key, Text.utf8Length element.front⟩ := by
  obtain ⟨reads, -⟩ := Place.reads_advance (p := .start (element.text ++ rest)) rfl
  obtain ⟨m, found⟩ := Option.isSome_iff_exists.mp
    (matchAt_isSome_iff.mpr ⟨_, _, matches_directiveContent.mpr ⟨element, reads, rfl⟩⟩)
  obtain ⟨element', rest', same, key⟩ := exists_element (Nat.zero_le _) found
  obtain ⟨fronts, keys⟩ := KeyElement.unique same
  have here : matchAt builtinPattern.program (.start (element.text ++ rest)) = some m := by
    rw [matchAt_builtin, found, Option.some_or]
  rw [extract_builtin, matchesIn_of_start here, List.filterMap_cons, key, fronts, keys]
  rfl

theorem Filter.notMem_text {filter : Filter} {c : Char} (inside : c ∈ filter.text) :
    c ∉ ['\'', '"'] := by
  have apart {c : Char} (plain : c ∉ ['|', '\x7d', '\'', '"']) : c ∉ ['\'', '"'] :=
    fun quote => plain (List.mem_append_right ['|', '\x7d'] quote)
  simp only [text, List.mem_cons, List.mem_append] at inside
  rcases inside with rfl | inside | inside | inside | inside
  · decide
  · exact (filter.before_space c inside).not_quote
  · have letter := filter.name_word c inside
    intro quote
    rcases List.mem_pair.mp quote with rfl | rfl <;> exact absurd letter (by decide)
  · exact (filter.after_space c inside).not_quote
  · cases argument : filter.argument with
    | none =>
      rw [argument] at inside
      cases inside
    | some text =>
      rw [argument] at inside
      rcases List.mem_cons.mp inside with rfl | inside
      · decide
      · exact apart (filter.argument_plain text argument c inside)

namespace PipedKey

/-- What is behind the quotes of a key. -/
def back (piped : PipedKey) : Text := piped.middle ++ '|' :: (piped.last ++ translate)

theorem text_eq_back (piped : PipedKey) :
    piped.text = piped.opening :: (piped.key ++ piped.closing :: piped.back) := rfl

/-- There are no quotes behind those of the key. -/
theorem notMem_back {piped : PipedKey} {c : Char} (inside : c ∈ piped.back) : c ∉ ['\'', '"'] := by
  simp only [back, middle, List.mem_append, List.mem_cons, List.mem_flatMap] at inside
  rcases inside with (inside | ⟨filter, -, inside⟩) | rfl | inside | inside
  · exact (piped.gap_space c inside).not_quote
  · exact Filter.notMem_text inside
  · decide
  · exact (piped.last_space c inside).not_quote
  · intro quote
    rcases List.mem_pair.mp quote with rfl | rfl <;> exact absurd inside (by decide)

/-- A text begins with one key in quotes at most. -/
theorem unique {piped piped' : PipedKey} {rest rest' : Text}
    (same : piped.text ++ rest = piped'.text ++ rest') :
    piped.opening = piped'.opening ∧ piped.key = piped'.key ∧
      piped.back ++ rest = piped'.back ++ rest' := by
  have stops (piped : PipedKey) (rest : Text) :
      ∀ c ∈ (piped.closing :: (piped.back ++ rest)).head?, ¬ IsKeyLetter c := by
    intro c head letter
    cases head
    exact letter.notMem (List.mem_cons_of_mem '<' piped.closing_quote)
  rw [text_eq_back, text_eq_back] at same
  simp only [List.cons_append, List.append_assoc] at same
  obtain ⟨opens, behind⟩ := List.cons.inj same
  obtain ⟨keys, behind⟩ := Text.append_inj_of_forall piped.key_letters piped'.key_letters
    (stops piped rest) (stops piped' rest') behind
  exact ⟨opens, keys, (List.cons.inj behind).2⟩

/-- An element stands behind a filter `translate` of a key in quotes. -/
def Hides (piped : PipedKey) (element : KeyElement) : Prop :=
  ∃ front space behind, piped.text = front ++ '|' :: (space ++ (translate ++ behind)) ∧
    (∀ c ∈ space, IsSpace c) ∧ behind.head?.any Property.word.has = false ∧
      element.text <:+: behind

end PipedKey

/-- At the start of a key in quotes, only the last form matches. -/
theorem matchAt_piped (piped : PipedKey) : ∃ own,
    matchAt (regex .pipe).program (.start piped.text) = some own ∧
      matchAt builtinPattern.program (.start piped.text) = some (own.shift 2) := by
  have quote := piped.opening_quote
  have noElement : matchAt (regex .directiveContent).program (.start piped.text) = none := by
    by_contra found
    obtain ⟨m, found⟩ := Option.ne_none_iff_exists'.mp found
    obtain ⟨element, rest, same, -⟩ := exists_element (Nat.zero_le piped.text.length) found
    have opens : piped.opening = '<' := (List.cons.inj same).1
    rw [opens] at quote
    exact absurd quote (by decide)
  have noAttribute : matchAt (regex .directiveAttribute).program (.start piped.text) = none := by
    by_contra found
    obtain ⟨m, found⟩ := Option.ne_none_iff_exists'.mp found
    obtain ⟨⟨c, first, head⟩, -⟩ := exists_attribute (Nat.zero_le piped.text.length) found
    have opens : piped.opening = c := Option.some.inj head
    rw [opens] at quote
    rcases List.mem_pair.mp first with rfl | rfl <;> exact absurd quote (by decide)
  obtain ⟨reads, ends⟩ := Place.reads_advance (p := .start piped.text) (t := [])
    (List.append_nil piped.text).symm
  have stops : ((Place.start piped.text).advance piped.text.length).isBefore Property.word =
      false := by
    rw [Place.isBefore, ends]
    rfl
  obtain ⟨own, found⟩ := Option.isSome_iff_exists.mp
    (matchAt_isSome_iff.mpr ⟨_, _, matches_pipe.mpr ⟨piped, reads, stops, rfl⟩⟩)
  refine ⟨own, found, ?_⟩
  rw [matchAt_builtin, noElement, noAttribute, found, Option.map_none, Option.none_or,
    Option.none_or, Option.map_some]

/-- In a text without quotes, only the first form matches. -/
theorem exists_element_of_unquoted {content : Text} {position : Nat} {m : Match}
    (inside : position ≤ content.length)
    (unquoted : ∀ c ∈ content.drop position, c ∉ ['\'', '"'])
    (found : matchAt builtinPattern.program ((Place.start content).advance position) = some m) :
    matchAt (regex .directiveContent).program ((Place.start content).advance position) = some m := by
  have noAttribute : matchAt (regex .directiveAttribute).program
      ((Place.start content).advance position) = none := by
    by_contra found
    obtain ⟨m, found⟩ := Option.ne_none_iff_exists'.mp found
    obtain ⟨-, c, held, quote⟩ := exists_attribute inside found
    exact unquoted c held (List.mem_pair.mpr (List.mem_pair.mp quote).symm)
  have noPipe : matchAt (regex .pipe).program ((Place.start content).advance position) = none := by
    by_contra found
    obtain ⟨m, found⟩ := Option.ne_none_iff_exists'.mp found
    obtain ⟨piped, rest, split, -⟩ := exists_piped inside found
    exact unquoted piped.opening (split ▸ List.mem_cons_self) piped.opening_quote
  rwa [matchAt_builtin, noAttribute, noPipe, Option.map_none, Option.map_none, Option.none_or,
    Option.or_none] at found

/-- The key in quotes is found first, and behind it only elements in the arguments of its filters, if
a filter `translate` stands before them. -/
theorem extract_piped (piped : PipedKey) : ∃ others,
    extract ⟨some builtinPattern, 3⟩ piped.text = ⟨piped.key, 1⟩ :: others ∧
      ∀ found ∈ others, ∃ element : KeyElement, element.key = found.key ∧ piped.Hides element := by
  obtain ⟨own, found, here⟩ := matchAt_piped piped
  obtain ⟨piped', behind, split, stops, stop, key⟩ :=
    exists_piped (Nat.zero_le piped.text.length) found
  have same : piped.text ++ [] = piped'.text ++ behind := (List.append_nil _).trans split
  obtain ⟨opens, keys, backs⟩ := PipedKey.unique same
  rw [List.append_nil] at backs
  have unquoted : ∀ c ∈ behind, c ∉ ['\'', '"'] := fun c inside =>
    PipedKey.notMem_back (backs ▸ List.mem_append_right _ inside)
  have offset : Text.utf8Length [piped.opening] = 1 := by
    rcases List.mem_pair.mp piped.opening_quote with quote | quote <;> rw [quote] <;> rfl
  rw [List.take_zero, List.nil_append, ← opens, ← keys, offset] at key
  rw [extract_builtin, matchesIn_of_start here, List.filterMap_cons, key]
  refine ⟨_, rfl, fun other inside => ?_⟩
  obtain ⟨m, member, yields⟩ := List.mem_filterMap.mp inside
  obtain ⟨n, near, at_⟩ := matchAt_of_mem member
  have ends : (own.shift 2).stop = piped'.text.length := stop.trans (Nat.zero_add _)
  have rest : piped.text.drop (piped'.text.length + n) = behind.drop n := by
    rw [← List.drop_drop, show piped.text = piped'.text ++ behind from split, List.drop_left]
  have small : piped'.text.length + n ≤ piped.text.length := by
    rw [ends, Place.rest_advance, show (Place.start piped.text).rest = piped'.text ++ behind from
      split, List.drop_left] at near
    rw [show piped.text = piped'.text ++ behind from split, List.length_append]
    omega
  rw [ends, ← Place.advance_add] at at_
  obtain ⟨element, after, stands, key'⟩ := exists_element small (exists_element_of_unquoted small
    (fun c inside => unquoted c (List.mem_of_mem_drop (rest ▸ inside))) at_)
  cases yields.symm.trans key'
  refine ⟨element, rfl, piped'.opening :: (piped'.key ++ piped'.closing :: piped'.middle),
    piped'.last, behind, ?_, piped'.last_space, stops, behind.take n, after, ?_⟩
  · rw [show piped.text = piped'.text ++ behind from split, PipedKey.text]
    simp
  · rw [List.append_assoc, ← stands, rest, List.take_append_drop]

/-- A search that is not deep and has no patterns of the user finds the key in quotes that goes through
filters to `translate` first, and nothing else unless an element stands behind a filter `translate`.
It finds the key of an element first. -/
theorem extract_wellFormed (declaredKeys : List Text) : ∃ keyPattern,
    ofFragments (compose declaredKeys [] false) = .ok keyPattern ∧
      (∀ piped : PipedKey, ∃ others, keyPattern.extract piped.text = ⟨piped.key, 1⟩ :: others ∧
        ∀ found ∈ others, ∃ element : KeyElement,
          element.key = found.key ∧ piped.Hides element) ∧
      ∀ (element : KeyElement) (rest : Text),
        (keyPattern.extract (element.text ++ rest)).head? =
          some ⟨element.key, Text.utf8Length element.front⟩ :=
  ⟨_, ofFragments_builtin declaredKeys, extract_piped, head?_extract_element⟩

/-- A key in quotes that goes through a filter whose name begins with `translate`. -/
def prefixed : PipedKey where
  opening := '"'
  key := ['A']
  closing := '"'
  gap := [' ']
  filters := [⟨[' '], translate ++ ['d'], [' '], some [' ', 'x', ' '],
    List.forall_mem_singleton.mpr (by decide), by decide, List.all_eq_true.mp (by decide),
    List.forall_mem_singleton.mpr (by decide), by simp⟩]
  last := [' ']
  opening_quote := by decide
  key_filled := by decide
  key_letters := List.forall_mem_singleton.mpr (by decide)
  closing_quote := by decide
  gap_space := List.forall_mem_singleton.mpr (by decide)
  last_space := List.forall_mem_singleton.mpr (by decide)

/-- An element with an attribute in front of the directive and a key on a line of its own. -/
def directed : KeyElement where
  attributes := "p class=\"a\"".toList
  gap := ' '
  directive := translate
  more := [' ', '*']
  before := ['\n']
  key := ['A', '.']
  after := ['\n']
  attributes_plain := by simp
  gap_space := by decide
  directive_eq := .inl rfl
  more_plain := by simp
  more_space := fun c head => Option.some.inj head ▸ (by decide : IsSpace ' ')
  before_space := List.forall_mem_singleton.mpr (by decide)
  key_filled := by decide
  key_letters := List.forall_mem_cons.mpr ⟨by decide, List.forall_mem_singleton.mpr (by decide)⟩
  after_space := List.forall_mem_singleton.mpr (by decide)

theorem extract_wellFormed_prefixed : ∃ keyPattern others,
    ofFragments (compose [] [] false) = .ok keyPattern ∧
      prefixed.text = "\"A\" | translated : x | translate".toList ∧
      keyPattern.extract prefixed.text = ⟨"A".toList, 1⟩ :: others ∧
      directed.text ++ "p>".toList = "<p class=\"a\" translate *>\nA.\n</p>".toList ∧
      (keyPattern.extract (directed.text ++ "p>".toList)).head? = some ⟨"A.".toList, 26⟩ := by
  obtain ⟨keyPattern, made, finds, finds'⟩ := extract_wellFormed []
  obtain ⟨others, found, -⟩ := finds prefixed
  exact ⟨keyPattern, others, made, by decide, found, by decide, finds' directed "p>".toList⟩

/-- A key in quotes that goes through a filter `translate` with an element in its argument. -/
def stuffed : PipedKey where
  opening := '\''
  key := ['A']
  closing := '\''
  gap := []
  filters := [⟨[], translate, [], some "<p translate>B</p>".toList, nofun, by decide,
    List.all_eq_true.mp (by decide), nofun, by simp⟩]
  last := []
  opening_quote := by decide
  key_filled := by decide
  key_letters := List.forall_mem_singleton.mpr (by decide)
  closing_quote := by decide
  gap_space := nofun
  last_space := nofun

set_option maxRecDepth 100000 in
/-- The element in the argument is found too. -/
theorem extract_finds_stuffed :
    ¬ ∀ keyPattern : KeyPattern, ofFragments (compose [] [] false) = .ok keyPattern →
      ∀ piped : PipedKey, keyPattern.extract piped.text = [⟨piped.key, 1⟩] := by
  intro claim
  have alone := claim _ (ofFragments_builtin []) stuffed
  have both : (extract ⟨some builtinPattern, 3⟩ stuffed.text).map FoundKey.key =
      [['A'], ['B']] := by decide +kernel
  rw [alone] at both
  cases both

end LocaleLint.KeyPattern
