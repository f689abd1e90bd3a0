import Mathlib
import LocaleLint.Proofs.Pattern.Language
import LocaleLint.Proofs.Pattern.Literal

/-!
# The words of regular expressions

The texts that a regular expression matches are words of a language, which is put together like the
expression. Without groups and conditions, it matches all words of the language, wherever they
stand.
-/

namespace LocaleLint.Pattern

open Unicode (CharClass)
open scoped Computability

/-- A text is read from one place to another. -/
def Place.Reads (p : Place) (text : Text) (q : Place) : Prop :=
  p.rest = text ++ q.rest ∧ q = p.advance text.length

namespace Place

variable {p mid q : Place} {s t : Text} {c : Char}

theorem reads_nil : p.Reads [] q ↔ q = p := by
  constructor
  · exact And.right
  · rintro rfl
    exact ⟨rfl, rfl⟩

theorem reads_cons : p.Reads (c :: s) q ↔
    ∃ rest, p.rest = c :: rest ∧ Place.Reads ⟨p.position + 1, some c, rest⟩ s q := by
  obtain ⟨position, before, rest⟩ := p
  constructor
  · rintro ⟨rfl, same⟩
    exact ⟨_, rfl, rfl, same⟩
  · rintro ⟨_, rfl, rfl, same⟩
    exact ⟨rfl, same⟩

theorem reads_append : p.Reads (s ++ t) q ↔ ∃ mid, p.Reads s mid ∧ mid.Reads t q := by
  induction s generalizing p with
  | nil => simp [reads_nil]
  | cons c s ih =>
    simp only [List.cons_append, reads_cons, ih]
    constructor
    · rintro ⟨rest, begins, mid, before, behind⟩
      exact ⟨mid, ⟨rest, begins, before⟩, behind⟩
    · rintro ⟨mid, ⟨rest, begins, before⟩, behind⟩
      exact ⟨rest, begins, mid, before, behind⟩

theorem Reads.position (reads : p.Reads s q) : q.position = p.position + s.length := by
  rw [reads.2, position_advance _ (by rw [reads.1, List.length_append]; omega)]

/-- The last character that was read stands before the place. -/
theorem Reads.before_eq (reads : p.Reads s q) (ends : s.getLast? = some c) : q.before = some c := by
  obtain ⟨front, rfl⟩ := List.getLast?_eq_some_iff.mp ends
  obtain ⟨mid, -, last⟩ := reads_append.mp reads
  obtain ⟨rest, -, last⟩ := reads_cons.mp last
  rw [reads_nil.mp last]

theorem reads_advance (begins : p.rest = s ++ t) :
    p.Reads s (p.advance s.length) ∧ (p.advance s.length).rest = t := by
  have rest : (p.advance s.length).rest = t := by
    rw [rest_advance, begins, List.drop_left]
  exact ⟨⟨by rw [rest, begins], rfl⟩, rest⟩

end Place

namespace Regex

/-- The words that a regular expression matches where all conditions hold. -/
def language : Regex → Language Char
  | empty => 1
  | one cls => {word | ∃ c, cls.has c = true ∧ word = [c]}
  | look _ => 1
  | capture _ body => body.language
  | seq first second => first.language * second.language
  | alt first second => first.language + second.language
  | optional _ body => 1 + body.language
  | plus _ body => body.language * body.language∗

/-- A regular expression without groups and conditions. -/
def IsSimple : Regex → Prop
  | empty => True
  | one _ => True
  | look _ => False
  | capture _ _ => False
  | seq first second => first.IsSimple ∧ second.IsSimple
  | alt first second => first.IsSimple ∧ second.IsSimple
  | optional _ body => body.IsSimple
  | plus _ body => body.IsSimple

variable {r : Regex} {p q : Place} {marks : Marks}

theorem append_mem_kstar {l : Language Char} {s t : Text} (first : s ∈ l) (others : t ∈ l∗) :
    s ++ t ∈ l∗ := by
  rw [← Language.one_add_self_mul_kstar_eq_kstar]
  exact .inr (Language.append_mem_mul first others)

/-- What a regular expression matches is a word of its language. -/
theorem Matches.exists_word (this : r.Matches p q marks) : ∃ word ∈ r.language, p.Reads word q := by
  induction this with
  | empty | look _ => exact ⟨[], rfl, Place.reads_nil.mpr rfl⟩
  | one has => exact ⟨[_], ⟨_, has, rfl⟩, rfl, rfl⟩
  | capture _ ih => exact ih
  | seq _ _ ih₁ ih₂ =>
    obtain ⟨s, first, before⟩ := ih₁
    obtain ⟨t, second, behind⟩ := ih₂
    exact ⟨s ++ t, Language.append_mem_mul first second,
      Place.reads_append.mpr ⟨_, before, behind⟩⟩
  | left _ ih =>
    obtain ⟨word, inside, reads⟩ := ih
    exact ⟨word, .inl inside, reads⟩
  | right _ ih =>
    obtain ⟨word, inside, reads⟩ := ih
    exact ⟨word, .inr inside, reads⟩
  | skip => exact ⟨[], .inl rfl, Place.reads_nil.mpr rfl⟩
  | once _ ih =>
    obtain ⟨word, inside, reads⟩ := ih
    exact ⟨word, .inr inside, reads⟩
  | last _ ih =>
    obtain ⟨word, inside, reads⟩ := ih
    refine ⟨word ++ [], Language.append_mem_mul inside (Language.nil_mem_kstar _), ?_⟩
    rwa [List.append_nil]
  | again _ _ ih₁ ih₂ =>
    obtain ⟨s, first, before⟩ := ih₁
    obtain ⟨_, ⟨t, round, others, later, rfl⟩, behind⟩ := ih₂
    exact ⟨_, Language.append_mem_mul first (append_mem_kstar round later),
      Place.reads_append.mpr ⟨_, before, behind⟩⟩

theorem IsSimple.marks_eq_nil (simple : r.IsSimple) (this : r.Matches p q marks) : marks = [] := by
  induction this with
  | empty | one _ | skip => rfl
  | look _ | capture _ _ => cases simple
  | seq _ _ ih₁ ih₂ => rw [ih₁ simple.1, ih₂ simple.2, List.append_nil]
  | left _ ih => exact ih simple.1
  | right _ ih => exact ih simple.2
  | once _ ih | last _ ih => exact ih simple
  | again _ _ ih₁ ih₂ => rw [ih₁ simple, ih₂ simple, List.append_nil]

private theorem matches_rounds {greedy : Bool} {body : Regex} {word : Text} {rounds : List Text}
    (each : ∀ {p q : Place} {word : Text}, word ∈ body.language → p.Reads word q →
      body.Matches p q []) (first : word ∈ body.language)
    (others : ∀ round ∈ rounds, round ∈ body.language) (reads : p.Reads (word ++ rounds.flatten) q) :
    (plus greedy body).Matches p q [] := by
  induction rounds generalizing p word with
  | nil =>
    rw [List.flatten_nil, List.append_nil] at reads
    exact .last (each first reads)
  | cons round rounds ih =>
    obtain ⟨next, others⟩ := List.forall_mem_cons.mp others
    obtain ⟨mid, before, behind⟩ := Place.reads_append.mp reads
    exact .again (each first before) (ih next others behind)

/-- Without groups and conditions, a regular expression matches each word of its language. -/
theorem IsSimple.matches_of_word (simple : r.IsSimple) {word : Text} (inside : word ∈ r.language)
    (reads : p.Reads word q) : r.Matches p q [] := by
  induction r generalizing p q word with
  | empty =>
    cases inside
    rw [Place.reads_nil.mp reads]
    exact .empty
  | one cls =>
    obtain ⟨c, has, rfl⟩ := inside
    obtain ⟨rest, begins, ends⟩ := Place.reads_cons.mp reads
    obtain ⟨position, before, _⟩ := p
    cases begins
    rw [Place.reads_nil.mp ends]
    exact .one has
  | look _ | capture _ _ => cases simple
  | seq first second ih₁ ih₂ =>
    obtain ⟨s, first, t, second, rfl⟩ := inside
    obtain ⟨mid, before, behind⟩ := Place.reads_append.mp reads
    exact .seq (ih₁ simple.1 first before) (ih₂ simple.2 second behind)
  | alt first second ih₁ ih₂ =>
    rcases inside with inside | inside
    · exact .left (ih₁ simple.1 inside reads)
    · exact .right (ih₂ simple.2 inside reads)
  | optional greedy body ih =>
    rcases inside with nothing | inside
    · cases nothing
      rw [Place.reads_nil.mp reads]
      exact .skip
    · exact .once (ih simple inside reads)
  | plus greedy body ih =>
    obtain ⟨s, first, t, later, rfl⟩ := inside
    obtain ⟨rounds, rfl, others⟩ := Language.mem_kstar.mp later
    exact matches_rounds (ih simple) first others reads

/-- Without groups and conditions, a regular expression matches exactly the words of its language. -/
theorem IsSimple.matches_iff (simple : r.IsSimple) :
    r.Matches p q marks ↔ marks = [] ∧ ∃ word ∈ r.language, p.Reads word q := by
  constructor
  · exact fun this => ⟨simple.marks_eq_nil this, this.exists_word⟩
  · rintro ⟨rfl, word, inside, reads⟩
    exact simple.matches_of_word inside reads

theorem isSimple_seqs {parts : List Regex} (each : ∀ part ∈ parts, part.IsSimple) :
    (seqs parts).IsSimple := by
  induction parts with
  | nil => trivial
  | cons part rest ih =>
    obtain ⟨first, others⟩ := List.forall_mem_cons.mp each
    cases rest with
    | nil => exact first
    | cons next rest => exact ⟨first, ih others⟩

theorem language_seqs (parts : List Regex) :
    (seqs parts).language = (parts.map language).prod := by
  induction parts with
  | nil => rfl
  | cons part rest ih =>
    rw [List.map_cons, List.prod_cons, ← ih]
    cases rest with
    | nil => exact (mul_one _).symm
    | cons next rest => rfl

theorem matches_seqs_cons {part : Regex} {parts : List Regex} :
    (seqs (part :: parts)).Matches p q marks ↔ ∃ mid noted later,
      part.Matches p mid noted ∧ (seqs parts).Matches mid q later ∧ marks = later ++ noted := by
  cases parts with
  | nil =>
    constructor
    · exact fun this => ⟨q, marks, [], this, .empty, rfl⟩
    · rintro ⟨mid, noted, later, this, nothing, rfl⟩
      cases nothing
      exact this
  | cons next rest =>
    constructor
    · rintro (_ | _ | _ | _ | ⟨before, behind⟩)
      exact ⟨_, _, _, before, behind, rfl⟩
    · rintro ⟨mid, noted, later, before, behind, rfl⟩
      exact .seq before behind

theorem matches_seqs_append {parts parts' : List Regex} :
    (seqs (parts ++ parts')).Matches p q marks ↔ ∃ mid noted later,
      (seqs parts).Matches p mid noted ∧ (seqs parts').Matches mid q later ∧
        marks = later ++ noted := by
  induction parts generalizing p marks with
  | nil =>
    constructor
    · exact fun this => ⟨p, [], marks, .empty, this, (List.append_nil _).symm⟩
    · rintro ⟨mid, noted, later, nothing, this, rfl⟩
      cases nothing
      rwa [List.append_nil]
  | cons part parts ih =>
    simp only [List.cons_append, matches_seqs_cons, ih]
    constructor
    · rintro ⟨mid, noted, _, first, ⟨mid', noted', later, others, behind, rfl⟩, rfl⟩
      exact ⟨mid', _, later, ⟨mid, noted, noted', first, others, rfl⟩, behind,
        List.append_assoc ..⟩
    · rintro ⟨mid', _, later, ⟨mid, noted, noted', first, others, rfl⟩, behind, rfl⟩
      exact ⟨mid, noted, _, first, ⟨mid', noted', later, others, behind, rfl⟩,
        (List.append_assoc ..).symm⟩

section
variable {cls : CharClass} {greedy greedy' : Bool} {text word : Text}

theorem mem_language_only {c : Char} : word ∈ (one (.only c)).language ↔ word = [c] := by
  constructor
  · rintro ⟨d, has, rfl⟩
    rw [(has_only c d).mp has]
  · rintro rfl
    exact ⟨c, (has_only c c).mpr rfl, rfl⟩

theorem mem_language_seqs_nil : word ∈ (seqs []).language ↔ word = [] := Iff.rfl

theorem mem_language_seqs_cons {part : Regex} {parts : List Regex} :
    word ∈ (seqs (part :: parts)).language ↔
      ∃ s ∈ part.language, ∃ t ∈ (seqs parts).language, s ++ t = word := by
  rw [language_seqs, List.map_cons, List.prod_cons, ← language_seqs, Language.mem_mul]

theorem mem_language_seqs_append {parts parts' : List Regex} :
    word ∈ (seqs (parts ++ parts')).language ↔
      ∃ s ∈ (seqs parts).language, ∃ t ∈ (seqs parts').language, s ++ t = word := by
  rw [language_seqs, List.map_append, List.prod_append, ← language_seqs, ← language_seqs,
    Language.mem_mul]

/-- Any number of rounds of a regular expression, given what one round is. -/
theorem mem_language_repeated {α : Type} {round : α → Text}
    (each : ∀ word, word ∈ r.language ↔ ∃ a, word = round a) :
    word ∈ (optional greedy (plus greedy' r)).language ↔ ∃ as : List α, word = as.flatMap round := by
  rw [language, language, Language.one_add_self_mul_kstar_eq_kstar, Language.mem_kstar]
  constructor
  · rintro ⟨rounds, rfl, inside⟩
    induction rounds with
    | nil => exact ⟨[], rfl⟩
    | cons first rounds ih =>
      obtain ⟨member, others⟩ := List.forall_mem_cons.mp inside
      obtain ⟨a, rfl⟩ := (each first).mp member
      obtain ⟨as, same⟩ := ih others
      exact ⟨a :: as, by rw [List.flatten_cons, same, List.flatMap_cons]⟩
  · rintro ⟨as, rfl⟩
    exact ⟨as.map round, rfl, List.forall_mem_map.mpr fun a _ => (each _).mpr ⟨a, rfl⟩⟩

theorem mem_language_rounds : word ∈ (plus greedy (one cls)).language ↔
    word ≠ [] ∧ ∀ c ∈ word, cls.has c = true := by
  constructor
  · rintro ⟨_, ⟨c, has, rfl⟩, t, later, rfl⟩
    obtain ⟨rounds, rfl, others⟩ := Language.mem_kstar.mp later
    refine ⟨List.cons_ne_nil _ _, List.forall_mem_cons.mpr ⟨has, fun d inside => ?_⟩⟩
    obtain ⟨round, member, inside⟩ := List.mem_flatten.mp inside
    obtain ⟨e, has, rfl⟩ := others round member
    rwa [List.mem_singleton.mp inside]
  · rintro ⟨filled, each⟩
    obtain ⟨c, rest, rfl⟩ := List.exists_cons_of_ne_nil filled
    obtain ⟨first, others⟩ := List.forall_mem_cons.mp each
    refine ⟨[c], ⟨c, first, rfl⟩, rest, Language.mem_kstar.mpr ⟨rest.map fun d => [d], ?_, ?_⟩, rfl⟩
    · exact (List.flatMap_singleton' rest).symm
    · exact List.forall_mem_map.mpr fun d inside => ⟨d, others d inside, rfl⟩

theorem mem_language_any : word ∈ (optional greedy (plus greedy' (one cls))).language ↔
    ∀ c ∈ word, cls.has c = true := by
  rw [language, Language.mem_add, mem_language_rounds, Language.mem_one]
  by_cases empty : word = []
  · simp [empty]
  · simp [empty]

theorem isSimple_literal (text : Text) : (literal text).IsSimple :=
  isSimple_seqs (List.forall_mem_map.mpr fun _ _ => trivial)

/-- A literal text is its only word. -/
theorem mem_language_literal : word ∈ (literal text).language ↔ word = text := by
  induction text generalizing word with
  | nil => exact Iff.rfl
  | cons c rest ih =>
    rw [literal, List.map_cons, mem_language_seqs_cons]
    constructor
    · rintro ⟨_, first, t, others, rfl⟩
      rw [mem_language_only.mp first, ih.mp others]
      rfl
    · rintro rfl
      exact ⟨[c], mem_language_only.mpr rfl, rest, ih.mpr rfl, rfl⟩

end

end Regex

end LocaleLint.Pattern
