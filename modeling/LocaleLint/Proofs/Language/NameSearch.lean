import Mathlib
import LocaleLint.Proofs.Json.Source
import LocaleLint.Proofs.Language.NameUse

/-!
# The search for names

Searching a JSON text without escapes for a name is searching its parts: only the name of a member
is found, never a string value or what stands between two quoted texts.
-/

namespace LocaleLint.NameLine

open Json (Piece Gap Blank Lead Label Source Page)
open Json.Piece (textOf)
open Text (utf8Length splitOn)

/-! ## What stands behind quoted texts -/

/-- The characters that may stand behind a quoted text: white space and punctuation. -/
def isSeam (c : Char) : Bool := Json.isBlank c || c ∈ [',', ':', ']', '\x7d']

/-- A text that goes on like what stands behind a quoted text, or ends. -/
def StartsSeam (text : Text) : Prop := ∀ c ∈ text.head?, isSeam c = true

/-- A text that goes on like what stands behind a value. -/
structure BehindValue (text : Text) : Prop where
  seam : StartsSeam text
  noColon : colonFollows text = false

/-- A name that is not what stands between two quoted texts. -/
structure Distinctive (name : Text) : Prop where
  unquoted : '"' ∉ name
  start : ∀ c ∈ name.head?, isSeam c = false

instance : DecidablePred Distinctive := fun name =>
  decidable_of_iff ('"' ∉ name ∧ (name.head?.all fun c => !isSeam c) = true)
    ⟨fun ⟨unquoted, start⟩ => ⟨unquoted, by simpa [Option.all_eq_true] using start⟩,
      fun ⟨unquoted, start⟩ => ⟨unquoted, by simpa [Option.all_eq_true] using start⟩⟩

theorem isWhite_of_isBlank {c : Char} (blank : Json.isBlank c = true) : Text.isWhite c = true := by
  simp only [Json.isBlank, Bool.or_eq_true, beq_iff_eq] at blank
  rcases blank with ((rfl | rfl) | rfl) | rfl <;> rfl

theorem startsSeam_append {gap : Text} (blank : Blank gap) {c : Char} (seam : isSeam c = true)
    (rest : Text) : StartsSeam (gap ++ c :: rest) := by
  cases gap with
  | nil =>
    rintro _ ⟨⟩
    exact seam
  | cons d gap =>
    rintro _ ⟨⟩
    rw [isSeam, blank d List.mem_cons_self, Bool.true_or]

theorem colonFollows_append {gap : Text} (blank : Blank gap) {c : Char}
    (visible : Text.isWhite c = false) (rest : Text) :
    colonFollows (gap ++ c :: rest) = decide (c = ':') := by
  have white : ∀ d ∈ gap, Text.isWhite d = true :=
    fun d inside => isWhite_of_isBlank (blank d inside)
  simp [colonFollows, Text.trimStart, List.dropWhile_append_of_pos white, visible]

theorem behindValue_append {gap : Text} (blank : Blank gap) {c : Char}
    (mark : c = ',' ∨ c = ']' ∨ c = '\x7d') (rest : Text) : BehindValue (gap ++ c :: rest) := by
  rcases mark with rfl | rfl | rfl <;>
    exact ⟨startsSeam_append blank rfl rest, colonFollows_append blank rfl rest⟩

theorem behindValue_blank {gap : Text} (blank : Blank gap) : BehindValue gap := by
  refine ⟨fun c first => ?_, ?_⟩
  · rw [isSeam, blank c (List.mem_of_mem_head? first), Bool.true_or]
  · have white : ∀ d ∈ gap, Text.isWhite d = true :=
      fun d inside => isWhite_of_isBlank (blank d inside)
    have none : gap.dropWhile Text.isWhite = [] := List.dropWhile_eq_nil_iff.mpr white
    simp [colonFollows, Text.trimStart, none]

/-! ## Parts in order -/

/-- Parts as they may follow one another: a colon stands behind the names of members, and behind no
other string. -/
inductive Spaced : List Piece → Prop
  | nil : Spaced []
  | plain {text : Text} {rest : List Piece} (unquoted : '"' ∉ text) (later : Spaced rest) :
      Spaced (.plain text :: rest)
  | name {s : Text} {rest : List Piece} (unquoted : '"' ∉ s) (seam : StartsSeam (textOf rest))
      (colon : colonFollows (textOf rest) = true) (later : Spaced rest) : Spaced (.name s :: rest)
  | string {s : Text} {rest : List Piece} (unquoted : '"' ∉ s) (behind : BehindValue (textOf rest))
      (later : Spaced rest) : Spaced (.string s :: rest)

theorem quote_notMem_blank {gap : Text} (blank : Blank gap) : '"' ∉ gap :=
  fun inside => absurd (blank _ inside) (by decide)

theorem quote_notMem_unescaped {s : Text} (unescaped : Json.IsUnescaped s) : '"' ∉ s :=
  fun inside => (unescaped _ inside).1 rfl

theorem quote_notMem_lead (lead : Lead) (first : Bool) : '"' ∉ lead.text first := by
  have before := quote_notMem_blank lead.before.2
  have behind := quote_notMem_blank lead.behind.2
  cases first <;> simp [Lead.text, before, behind]

theorem behindValue_itemPieces (items : List (Lead × Source)) {rest : List Piece}
    (behind : BehindValue (textOf rest)) :
    BehindValue (textOf (Source.itemPieces false items ++ rest)) := by
  cases items with
  | nil => exact behind
  | cons item items =>
    obtain ⟨lead, item⟩ := item
    have comma := behindValue_append lead.before.2 (.inl rfl) (lead.behind.1 ++
      textOf (item.pieces ++ (Source.itemPieces false items ++ rest)))
    simpa [Source.itemPieces, Piece.text, Lead.text] using comma

theorem behindValue_memberPieces (members : List (Label × Source)) {rest : List Piece}
    (behind : BehindValue (textOf rest)) :
    BehindValue (textOf (Source.memberPieces false members ++ rest)) := by
  cases members with
  | nil => exact behind
  | cons member members =>
    obtain ⟨label, value⟩ := member
    have comma := behindValue_append label.before.2 (.inl rfl) (label.behind.1 ++
      textOf (.name label.name :: .plain label.colon ::
        (value.pieces ++ (Source.memberPieces false members ++ rest))))
    simpa [Source.memberPieces, Piece.text, Lead.text] using comma

mutual

/-- The parts of a value follow one another as they may. -/
theorem spaced_pieces : ∀ (source : Source) {rest : List Piece}, BehindValue (textOf rest) →
    Spaced rest → Spaced (source.pieces ++ rest)
  | .word w, _, _, later => .plain (fun inside => absurd (w.solid _ inside) (by decide)) later
  | .string s, _, behind, later => .string (quote_notMem_unescaped s.2) behind later
  | .array items close, rest, _, later => by
    have closed : Spaced (.plain (close.1 ++ [']']) :: rest) :=
      .plain (by simpa using quote_notMem_blank close.2) later
    have behind : BehindValue (textOf (.plain (close.1 ++ [']']) :: rest)) := by
      simpa [Piece.text] using behindValue_append close.2 (.inr (.inl rfl)) (textOf rest)
    simpa [Source.pieces] using Spaced.plain (by decide) (spaced_itemPieces true items behind closed)
  | .object members close, rest, _, later => by
    have closed : Spaced (.plain (close.1 ++ ['\x7d']) :: rest) :=
      .plain (by simpa using quote_notMem_blank close.2) later
    have behind : BehindValue (textOf (.plain (close.1 ++ ['\x7d']) :: rest)) := by
      simpa [Piece.text] using behindValue_append close.2 (.inr (.inr rfl)) (textOf rest)
    simpa [Source.pieces] using
      Spaced.plain (by decide) (spaced_memberPieces true members behind closed)

private theorem spaced_itemPieces : ∀ (first : Bool) (items : List (Lead × Source))
    {rest : List Piece}, BehindValue (textOf rest) → Spaced rest →
      Spaced (Source.itemPieces first items ++ rest)
  | _, [], _, _, later => later
  | first, (lead, item) :: items, rest, behind, later => by
    have others := spaced_pieces item (behindValue_itemPieces items behind)
      (spaced_itemPieces false items behind later)
    simpa [Source.itemPieces] using Spaced.plain (quote_notMem_lead lead first) others

private theorem spaced_memberPieces : ∀ (first : Bool) (members : List (Label × Source))
    {rest : List Piece}, BehindValue (textOf rest) → Spaced rest →
      Spaced (Source.memberPieces first members ++ rest)
  | _, [], _, _, later => later
  | first, (label, value) :: members, rest, behind, later => by
    have others := spaced_pieces value (behindValue_memberPieces members behind)
      (spaced_memberPieces false members behind later)
    have unquoted : '"' ∉ label.colon := by
      simp [Label.colon, quote_notMem_blank label.beforeColon.2,
        quote_notMem_blank label.behindColon.2]
    have seam := startsSeam_append label.beforeColon.2 (by decide : isSeam ':' = true)
      (label.behindColon.1 ++ textOf (value.pieces ++ (Source.memberPieces false members ++ rest)))
    have colon := colonFollows_append label.beforeColon.2 (by decide : Text.isWhite ':' = false)
      (label.behindColon.1 ++ textOf (value.pieces ++ (Source.memberPieces false members ++ rest)))
    have named := Spaced.name (quote_notMem_unescaped label.name.2)
      (by simpa [Piece.text, Label.colon] using seam)
      (by simpa [Piece.text, Label.colon] using colon) (.plain unquoted others)
    simpa [Source.memberPieces] using Spaced.plain (quote_notMem_lead label.toLead first) named

end

theorem spaced_page (page : Page) : Spaced page.pieces := by
  have blank := quote_notMem_blank page.behind.2
  have behind : BehindValue (textOf [.plain page.behind]) := by
    simpa [Piece.text] using behindValue_blank page.behind.2
  exact .plain (quote_notMem_blank page.before.2)
    (spaced_pieces page.body behind (.plain blank .nil))

/-! ## One search -/

/-- The rest of a text behind a member's name, if the text starts with it. -/
def nameHere? (name text : Text) : Option Text :=
  (Text.dropPrefix? (quoted name) text).filter colonFollows

/-- The search of a text that starts at an offset, character by character: the offset behind the
first use of a name, and the rest of the text from there. -/
def scan? (name : Text) : (offset : Nat) → Text → Option (Nat × Text)
  | offset, text =>
    match nameHere? name text with
    | some rest => some (offset + utf8Length (quoted name), rest)
    | none =>
      match text with
      | [] => none
      | c :: rest => scan? name (offset + c.utf8Size) rest

theorem nameHere?_eq_some_iff {name text rest : Text} :
    nameHere? name text = some rest ↔ IsUse name text [] rest := by
  rw [nameHere?, Option.filter_eq_some_iff, Text.dropPrefix?_eq_some, colonFollows_iff]
  exact ⟨fun ⟨split, colon⟩ => ⟨split, colon⟩, fun ⟨split, colon⟩ => ⟨split, colon⟩⟩

/-- The search character by character ends at the first use of the name. -/
theorem scan?_first (name : Text) (offset : Nat) (text : Text) :
    (∃ front rest, IsFirstUse name text front rest ∧
      scan? name offset text = some (offset + utf8Length (front ++ quoted name), rest)) ∨
    ((∀ front rest, ¬ IsUse name text front rest) ∧ scan? name offset text = none) := by
  induction text generalizing offset with
  | nil =>
    refine .inr ⟨fun front rest use => ?_, rfl⟩
    simpa [quoted] using use.split
  | cons c text ih =>
    rw [scan?]
    cases here : nameHere? name (c :: text) with
    | some rest =>
      exact .inl ⟨[], rest, ⟨nameHere?_eq_some_iff.mp here, fun _ _ _ => Nat.zero_le _⟩, rfl⟩
    | none =>
      -- A use in the text does not start at its first character.
      have later {front rest : Text} (use : IsUse name (c :: text) front rest) :
          ∃ front', front = c :: front' ∧ IsUse name text front' rest := by
        cases front with
        | nil => cases here.symm.trans (nameHere?_eq_some_iff.mpr use)
        | cons d front =>
          obtain ⟨rfl, split⟩ := List.cons.inj use.split
          exact ⟨front, rfl, split, use.colon⟩
      rcases ih (offset + c.utf8Size) with ⟨front, rest, use, found⟩ | ⟨unused, none⟩
      · refine .inl ⟨c :: front, rest, ⟨use.toIsUse.append [c], fun front' rest' other => ?_⟩, ?_⟩
        · obtain ⟨front', rfl, inner⟩ := later other
          exact Nat.succ_le_succ (use.first _ _ inner)
        · rw [found, List.cons_append, utf8Length, Nat.add_assoc]
      · refine .inr ⟨fun front rest use => ?_, none⟩
        obtain ⟨front', -, inner⟩ := later use
        exact unused _ _ inner

/-- A search from a boundary on finds what the search character by character finds. -/
theorem find?_eq_scan? (before text name : Text) :
    find? (before ++ text) (utf8Length before) name =
      (scan? name (utf8Length before) text).map (·.1) := by
  rcases find?_boundary before text name with ⟨front, rest, use, found⟩ | ⟨unused, found⟩ <;>
    rcases scan?_first name (utf8Length before) text with ⟨front', rest', use', scanned⟩ |
      ⟨unused', scanned⟩
  · obtain ⟨rfl, rfl⟩ := use.unique use'
    rw [found, scanned, Option.map_some, ← Text.utf8Length_append, List.append_assoc]
  · exact absurd use.toIsUse (unused' _ _)
  · exact absurd use'.toIsUse (unused _ _)
  · rw [found, scanned, Option.map_none]

/-- The parts up to the first member's name that is `name`, and the parts behind it. -/
def cut (name : Text) : List Piece → Option (List Piece × List Piece)
  | [] => none
  | piece :: rest =>
    if piece.name? = some name then some ([piece], rest)
    else (cut name rest).map fun (front, behind) => (piece :: front, behind)

theorem scan?_cons_of_ne {name : Text} {c : Char} (other : c ≠ '"') (offset : Nat) (rest : Text) :
    scan? name offset (c :: rest) = scan? name (offset + c.utf8Size) rest := by
  have none : nameHere? name (c :: rest) = none := by
    rw [nameHere?, quoted, List.cons_append, Text.dropPrefix?, if_neg other.symm, Option.filter_none]
  rw [scan?, none]

/-- Nothing is found in a text without quotes. -/
theorem scan?_unquoted {text : Text} (unquoted : '"' ∉ text) (name : Text) (offset : Nat)
    (rest : Text) :
    scan? name offset (text ++ rest) = scan? name (offset + utf8Length text) rest := by
  induction text generalizing offset with
  | nil => rfl
  | cons c text ih =>
    rw [List.mem_cons, not_or] at unquoted
    rw [List.cons_append, scan?_cons_of_ne (Ne.symm unquoted.1), ih unquoted.2, utf8Length,
      Nat.add_assoc]

/-- A distinctive name does not start at the quote that ends a quoted text. -/
theorem scan?_seam {name : Text} (distinctive : Distinctive name) {rest : Text}
    (seam : StartsSeam rest) (offset : Nat) :
    scan? name offset ('"' :: rest) = scan? name (offset + 1) rest := by
  have none : nameHere? name ('"' :: rest) = none := by
    rw [nameHere?, Option.filter_eq_none_iff]
    intro behind dropped
    obtain ⟨-, same⟩ := List.cons.inj (Text.dropPrefix?_eq_some.mp dropped)
    cases name with
    | nil => exact absurd (seam '"' (by rw [same]; rfl)) (by decide)
    | cons c name =>
      have clash := (seam c (by rw [same]; rfl)).symm.trans (distinctive.start c rfl)
      cases clash
  rw [scan?, none]
  rfl

/-- Quoted texts are the same if they start the same text. -/
theorem eq_of_quoted {name s rest behind : Text} (unquoted : '"' ∉ name) (unquoted' : '"' ∉ s)
    (same : quoted s ++ rest = quoted name ++ behind) : name = s ∧ behind = rest := by
  have stops (t : Text) : ∀ c ∈ ('"' :: t).head?, ¬ c ≠ '"' := by
    rintro _ ⟨⟩
    simp
  have inner : s ++ '"' :: rest = name ++ '"' :: behind := by simpa [quoted] using same
  obtain ⟨rfl, behind⟩ := Text.append_inj_of_forall
    (fun c inside => ne_of_mem_of_not_mem inside unquoted')
    (fun c inside => ne_of_mem_of_not_mem inside unquoted) (stops rest) (stops behind) inner
  exact ⟨rfl, (List.cons.inj behind).2.symm⟩

/-- A search passes over a quoted text that is not the name of a member, or another name. -/
theorem scan?_quoted_of_ne {name s : Text} (distinctive : Distinctive name) (unquoted : '"' ∉ s)
    {rest : Text} (seam : StartsSeam rest) (other : name = s → colonFollows rest = false)
    (offset : Nat) :
    scan? name offset (quoted s ++ rest) = scan? name (offset + utf8Length (quoted s)) rest := by
  have none : nameHere? name ('"' :: (s ++ '"' :: rest)) = none := by
    rw [nameHere?, Option.filter_eq_none_iff]
    intro behind dropped
    obtain ⟨rfl, rfl⟩ := @eq_of_quoted name s rest behind distinctive.unquoted unquoted
      (by simpa [quoted] using Text.dropPrefix?_eq_some.mp dropped)
    simp [other rfl]
  have size : '"'.utf8Size = 1 := rfl
  have split : quoted s ++ rest = '"' :: (s ++ '"' :: rest) := by simp [quoted]
  rw [split, scan?, none]
  dsimp only
  rw [scan?_unquoted unquoted, scan?_seam distinctive seam, size]
  simp [quoted, utf8Length, size, Nat.add_assoc]

theorem scan?_quoted {name : Text} {rest : Text} (colon : colonFollows rest = true)
    (offset : Nat) :
    scan? name offset (quoted name ++ rest) = some (offset + utf8Length (quoted name), rest) := by
  have here : nameHere? name (quoted name ++ rest) = some rest := by
    rw [nameHere?, Text.dropPrefix?_eq_some.mpr rfl, Option.filter_some, if_pos colon]
  change scan? name offset ('"' :: (name ++ ['"'] ++ rest)) = _
  rw [scan?, show nameHere? name ('"' :: (name ++ ['"'] ++ rest)) = some rest from here]

/-- A search goes on behind a part that it passes over. -/
theorem scan?_textOf_cons {name : Text} {piece : Piece} {rest : List Piece}
    (other : piece.name? ≠ some name) {offset : Nat}
    (passed : scan? name offset (piece.text ++ textOf rest) =
      scan? name (offset + utf8Length piece.text) (textOf rest))
    (later : ∀ offset, scan? name offset (textOf rest) = (cut name rest).map fun (front, behind) =>
      (offset + utf8Length (textOf front), textOf behind)) :
    scan? name offset (textOf (piece :: rest)) =
      (cut name (piece :: rest)).map fun (front, behind) =>
        (offset + utf8Length (textOf front), textOf behind) := by
  rw [Json.Piece.textOf_cons, passed, later, cut, if_neg other, Option.map_map]
  refine congrArg (Option.map · _) (funext fun (front, behind) => ?_)
  simp [Nat.add_assoc]

/-- The search of a text finds the first member's name. -/
theorem scan?_textOf {name : Text} (distinctive : Distinctive name) {pieces : List Piece}
    (spaced : Spaced pieces) (offset : Nat) :
    scan? name offset (textOf pieces) = (cut name pieces).map fun (front, rest) =>
      (offset + utf8Length (textOf front), textOf rest) := by
  induction spaced generalizing offset with
  | nil => rfl
  | plain unquoted _ ih =>
    exact scan?_textOf_cons (by rintro ⟨⟩) (scan?_unquoted unquoted name offset _) ih
  | @name s rest unquoted seam colon _ ih =>
    by_cases same : name = s
    · subst same
      have cut_here : cut name (.name name :: rest) = some ([.name name], rest) := if_pos rfl
      rw [cut_here]
      exact (scan?_quoted colon offset).trans (by simp [Piece.text, quoted])
    · exact scan?_textOf_cons (by rintro ⟨⟩; exact same rfl)
        (scan?_quoted_of_ne distinctive unquoted seam (absurd · same) offset) ih
  | string unquoted behind _ ih =>
    exact scan?_textOf_cons (by rintro ⟨⟩)
      (scan?_quoted_of_ne distinctive unquoted behind.seam (fun _ => behind.noColon) offset) ih

/-! ## The search for a key -/

/-- The parts up to the last of several names that are found one behind the other. -/
def frontOfNames : List Text → List Piece → List Piece
  | [], _ => []
  | name :: names, pieces =>
    match cut name pieces with
    | none => []
    | some (front, rest) => front ++ frontOfNames names rest

/-- The parts up to the first member whose name is the whole key, or else up to the last part of the
key that is found behind the parts in front of it. -/
def frontOf (key : Text) (pieces : List Piece) : List Piece :=
  match cut key pieces with
  | some (front, _) => front
  | none => frontOfNames (splitOn '.' key) pieces

/-- The line on which parts of a text end. -/
def lineBehind (front : List Piece) : Nat := (textOf front).count '\n' + 1

theorem append_of_cut {name : Text} {pieces front rest : List Piece}
    (found : cut name pieces = some (front, rest)) : pieces = front ++ rest := by
  induction pieces generalizing front with
  | nil => cases found
  | cons piece pieces ih =>
    rw [cut] at found
    split_ifs at found with here
    · cases found
      rfl
    · obtain ⟨⟨front, behind⟩, later, made⟩ := Option.map_eq_some_iff.mp found
      cases made
      rw [ih later, List.cons_append]

theorem Spaced.of_append {front rest : List Piece} (spaced : Spaced (front ++ rest)) :
    Spaced rest := by
  induction front with
  | nil => exact spaced
  | cons piece front ih =>
    cases spaced with
    | plain _ later => exact ih later
    | name _ _ _ later => exact ih later
    | string _ _ later => exact ih later

theorem frontOfNames_prefix (names : List Text) (pieces : List Piece) :
    frontOfNames names pieces <+: pieces := by
  induction names generalizing pieces with
  | nil => exact List.nil_prefix
  | cons name names ih =>
    rw [frontOfNames]
    cases found : cut name pieces with
    | none => exact List.nil_prefix
    | some parts =>
      obtain ⟨front, rest⟩ := parts
      rw [append_of_cut found]
      exact (List.prefix_append_right_inj front).mpr (ih rest)

theorem frontOf_prefix (key : Text) (pieces : List Piece) : frontOf key pieces <+: pieces := by
  rw [frontOf]
  cases found : cut key pieces with
  | none => exact frontOfNames_prefix _ _
  | some parts =>
    obtain ⟨front, rest⟩ := parts
    exact ⟨rest, (append_of_cut found).symm⟩

/-- Behind some parts of a text, the search finds the first member's name. -/
theorem find?_textOf {name : Text} (distinctive : Distinctive name) {pieces : List Piece}
    (spaced : Spaced pieces) (front : List Piece) :
    find? (textOf (front ++ pieces)) (utf8Length (textOf front)) name =
      (cut name pieces).map fun (found, _) => utf8Length (textOf (front ++ found)) := by
  rw [Json.Piece.textOf_append, find?_eq_scan?, scan?_textOf distinctive spaced, Option.map_map]
  refine congrArg (Option.map · _) (funext fun (found, rest) => ?_)
  simp

theorem follow_textOf {names : List Text} (distinctive : ∀ name ∈ names, Distinctive name)
    {pieces : List Piece} (spaced : Spaced pieces) (front : List Piece) :
    follow (textOf (front ++ pieces)) names (utf8Length (textOf front)) =
      utf8Length (textOf (front ++ frontOfNames names pieces)) := by
  induction names generalizing pieces front with
  | nil => simp [follow, frontOfNames]
  | cons name names ih =>
    obtain ⟨first, others⟩ := List.forall_mem_cons.mp distinctive
    rw [follow, find?_textOf first spaced, frontOfNames]
    cases found : cut name pieces with
    | none => simp
    | some parts =>
      obtain ⟨skipped, rest⟩ := parts
      have split := append_of_cut found
      rw [split] at spaced
      have onward := ih others spaced.of_append (front ++ skipped)
      dsimp only [Option.map_some]
      rw [split, ← List.append_assoc, onward, List.append_assoc]

/-- A key is distinctive if its parts are. -/
theorem distinctive_of_parts {key : Text} (parts : ∀ part ∈ splitOn '.' key, Distinctive part) :
    Distinctive key := by
  obtain ⟨first, rest, split⟩ := List.exists_cons_of_ne_nil (Text.splitOn_ne_nil '.' key)
  have whole := Text.joinWith_splitOn '.' key
  rw [split, Json.joinWith_cons] at whole
  rw [split] at parts
  obtain ⟨distinctive, others⟩ := List.forall_mem_cons.mp parts
  rw [← whole]
  constructor
  · simp only [List.mem_append, List.mem_flatMap, not_or, not_exists, not_and]
    exact ⟨distinctive.unquoted, fun part inside =>
      ⟨by decide, (others part inside).unquoted⟩⟩
  · cases first with
    | cons c first => exact distinctive.start
    | nil =>
      cases rest with
      | nil => exact nofun
      | cons second rest =>
        rintro _ ⟨⟩
        rfl

/-- The line of a key in a text is the line on which the name ends that the search of the parts
finds. -/
theorem lineOf_textOf {key : Text} (distinctive : Distinctive key) {pieces : List Piece}
    (parts : cut key pieces = none → ∀ part ∈ splitOn '.' key, Distinctive part)
    (spaced : Spaced pieces) :
    lineOf (textOf pieces) (LineIndex.ofText (textOf pieces)) key =
      lineBehind (frontOf key pieces) := by
  have offset : offsetOf (textOf pieces) key = utf8Length (textOf (frontOf key pieces)) := by
    have whole := find?_textOf distinctive spaced []
    rw [List.nil_append] at whole
    rw [offsetOf, show (0 : Nat) = utf8Length (textOf []) from rfl, whole, frontOf]
    cases found : cut key pieces with
    | none => exact follow_textOf (parts found) spaced []
    | some parts => rfl
  obtain ⟨rest, split⟩ := frontOf_prefix key pieces
  have line := LineIndex.line_utf8Length (textOf (frontOf key pieces)) (textOf rest)
  rw [← Json.Piece.textOf_append, split] at line
  rw [lineOf, offset, line, lineBehind]

end LocaleLint.NameLine
