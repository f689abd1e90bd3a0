import Mathlib
import LocaleLint.Pattern.Search
import LocaleLint.Proofs.Pattern.Nesting
import LocaleLint.Proofs.Pattern.Relocation

/-!
# The numbers of groups

The groups of a pattern are numbered from one on, their names differ, and a match marks no other
groups. With later numbers for its groups, a pattern means the same.
-/

namespace LocaleLint.Pattern

mutual

/-- The numbers and the names of the groups that capture in a pattern. -/
def Ast.captures : Ast → List (Nat × Option Text)
  | .repetition _ _ _ body => body.captures
  | .group (.capture index name) body => (index, name) :: body.captures
  | .group (.plain _) body => body.captures
  | .alternation branches => Ast.capturesOf branches
  | .sequence parts => Ast.capturesOf parts
  | _ => []

/-- The numbers and the names of the groups that capture in several patterns. -/
def Ast.capturesOf : List Ast → List (Nat × Option Text)
  | [] => []
  | ast :: rest => ast.captures ++ Ast.capturesOf rest

end

theorem Ast.capturesOf_eq_flatMap (asts : List Ast) :
    Ast.capturesOf asts = asts.flatMap Ast.captures := by
  induction asts with
  | nil => rfl
  | cons ast rest ih => rw [Ast.capturesOf, ih, List.flatMap_cons]

theorem gathers_captures : Gathers Ast.captures where
  empty := by rw [Ast.captures] <;> simp
  alternation branches := by rw [Ast.captures, Ast.capturesOf_eq_flatMap]
  sequence parts := by rw [Ast.captures, Ast.capturesOf_eq_flatMap]

/-- The groups that capture in what has been read of a level. -/
def Level.captures (level : Level) : List (Nat × Option Text) :=
  level.parts.flatMap Ast.captures ++ level.branches.flatMap Ast.captures

theorem mem_captures_close {level : Level} {capture : Nat × Option Text} :
    capture ∈ level.close.captures ↔ capture ∈ level.captures := gathers_captures.mem_close

def GroupKind.captures : GroupKind → List (Nat × Option Text)
  | .capture index name => [(index, name)]
  | .plain _ => []

theorem captures_group (kind : GroupKind) (body : Ast) :
    (Ast.group kind body).captures = kind.captures ++ body.captures := by
  cases kind <;> rfl

/-- The groups that capture in what has been read. -/
def Reading.marked (reading : Reading) : List (Nat × Option Text) :=
  reading.level.captures ++
    reading.groups.flatMap fun group => group.kind.captures ++ group.outer.captures

/-- The groups of a reading are numbered from one on, their names are the ones that are noted, and
no name is taken twice. -/
structure Reading.Numbered (reading : Reading) : Prop where
  numbers : ∀ capture ∈ reading.marked, 0 < capture.1 ∧ capture.1 ≤ reading.captures
  names : ∀ name, name ∈ reading.names ↔ ∃ index, (index, some name) ∈ reading.marked
  distinct : reading.names.Nodup

namespace Reading

theorem numbered_start (text : Text) : (start text).Numbered where
  numbers := nofun
  names := fun _ => ⟨nofun, nofun⟩
  distinct := List.nodup_nil

/-- What a step leaves of a reading is numbered, if it has the same groups. -/
theorem Numbered.of_same {reading next : Reading} (numbered : reading.Numbered)
    (same : ∀ capture, capture ∈ next.marked ↔ capture ∈ reading.marked)
    (captures : next.captures = reading.captures) (names : next.names = reading.names) :
    next.Numbered where
  numbers capture inside := by
    rw [captures]
    exact numbered.numbers capture ((same capture).mp inside)
  names name := by
    simp only [names, same]
    exact numbered.names name
  distinct := by
    rw [names]
    exact numbered.distinct

private theorem Numbered.push {reading : Reading} (numbered : reading.Numbered) (part : Ast)
    (uncaptured : part.captures = []) (rest : Text) : (reading.push part rest).Numbered := by
  refine numbered.of_same (fun capture => ?_) rfl rfl
  simp [marked, Reading.push, Level.push, Level.captures, uncaptured]

private theorem Numbered.repeatPart {reading next : Reading} (numbered : reading.Numbered)
    {part : Ast} {parts : List Ast} (taken : reading.takePart = .ok (part, parts)) {least : Nat}
    {most : Option Nat} {greedy : Bool} {rest : Text}
    (made : next = { reading with
      level := { reading.level with parts := .repetition least most greedy part :: parts }
      rest }) : next.Numbered := by
  have last := parts_of_takePart taken
  subst made
  refine numbered.of_same (fun capture => ?_) rfl rfl
  simp [marked, Level.captures, Ast.captures, last]

private theorem Numbered.openGroup {reading next : Reading} (numbered : reading.Numbered)
    {rest : Text} (opened : reading.openGroup rest = .ok next) : next.Numbered := by
  obtain ⟨⟨opener, left⟩, read, made⟩ := bind_eq_ok.mp opened
  obtain ⟨-, fresh, -⟩ := readOpener_append read
  cases opener with
  | flags changes =>
    cases made
    exact (numbered.push (.flags changes) rfl left).of_same (fun _ => Iff.rfl) rfl rfl
  | plain flags =>
    cases made
    refine numbered.of_same (fun capture => ?_) rfl rfl
    simp [marked, enter, Level.captures, GroupKind.captures]
  | capture name =>
    cases made
    have older {capture : Nat × Option Text} : capture ∈
        ((reading.enter (.capture (reading.captures + 1) name) reading.verbose left)).marked ↔
        capture = (reading.captures + 1, name) ∨ capture ∈ reading.marked := by
      simp [marked, enter, Level.captures, GroupKind.captures]
    constructor
    · intro capture inside
      rcases older.mp inside with rfl | inside
      · exact ⟨Nat.succ_pos _, Nat.le_refl _⟩
      · have := numbered.numbers capture inside
        exact ⟨this.1, Nat.le_succ_of_le this.2⟩
    · intro name'
      rw [List.mem_append, Option.mem_toList, numbered.names]
      constructor
      · rintro (⟨index, inside⟩ | named)
        · exact ⟨index, older.mpr (.inr inside)⟩
        · exact ⟨_, older.mpr (.inl (congrArg _ named.symm))⟩
      · rintro ⟨index, inside⟩
        rcases older.mp inside with same | inside
        · exact .inr (Prod.mk.inj same).2.symm
        · exact .inl ⟨index, inside⟩
    · cases name with
      | none =>
        rw [Option.toList_none, List.append_nil]
        exact numbered.distinct
      | some name =>
        exact numbered.distinct.append (List.nodup_singleton name)
          (List.disjoint_singleton.mpr (fresh name rfl))

private theorem Numbered.closeGroup {reading next : Reading} (numbered : reading.Numbered)
    {rest : Text} (closed : reading.closeGroup rest = .ok next) : next.Numbered := by
  unfold Reading.closeGroup at closed
  split at closed
  · cases closed
  · rename_i group groups opened
    cases closed
    refine numbered.of_same (fun capture => ?_) rfl rfl
    have inner : capture ∈ reading.level.close.captures ↔ capture ∈ reading.level.captures :=
      mem_captures_close
    simp only [marked, Level.push, Level.captures, List.flatMap_cons, captures_group,
      List.mem_append, opened] at inner ⊢
    tauto

private theorem Numbered.branch {reading : Reading} (numbered : reading.Numbered) (rest : Text) :
    (reading.branch rest).Numbered := by
  refine numbered.of_same (fun capture => ?_) rfl rfl
  simp only [marked, Reading.branch, Level.captures, List.flatMap_cons, List.flatMap_nil,
    List.nil_append, List.mem_append, gathers_captures.mem_sequenceOf]

/-- A step numbers groups, and takes no name twice. -/
theorem numbered_step {reading next : Reading} {c : Char} {rest : Text}
    (numbered : reading.Numbered) (stepped : reading.step c rest = .ok next) : next.Numbered := by
  unfold step at stepped
  split at stepped
  · exact numbered.openGroup stepped
  · exact numbered.closeGroup stepped
  · cases stepped
    exact numbered.branch rest
  · obtain ⟨⟨set, left⟩, read, made⟩ := map_eq_ok.mp stepped
    obtain ⟨-, ⟨negated, class_, rfl⟩, -⟩ := readClass_append read
    cases made
    exact numbered.push _ rfl left
  iterate 3
    · obtain ⟨⟨part, parts⟩, taken, made⟩ := bind_eq_ok.mp stepped
      cases made
      exact numbered.repeatPart taken rfl
  · obtain ⟨⟨part, parts⟩, taken, found⟩ := bind_eq_ok.mp stepped
    obtain ⟨⟨⟨least, most, greedy⟩, left⟩, read, made⟩ := bind_eq_ok.mp found
    cases made
    exact numbered.repeatPart taken rfl
  · obtain ⟨⟨primitive, left⟩, read, made⟩ := map_eq_ok.mp stepped
    cases made
    exact numbered.push _ (by cases primitive <;> rfl) left
  all_goals
    cases stepped
    exact numbered.push _ rfl rest

/-- What is read to the end is numbered. -/
theorem numbered_finish {reading final : Reading} (numbered : reading.Numbered)
    (finished : reading.finish = .ok final) : final.Numbered :=
  finish_preserves (fun _ _ _ _ stepped numbered => numbered_step numbered stepped) numbered finished

end Reading

namespace Regex

theorem mem_groups_seqs {rs : List Regex} {index : Nat} :
    index ∈ (seqs rs).groups ↔ ∃ r ∈ rs, index ∈ r.groups := by
  induction rs with
  | nil => simp [seqs, groups]
  | cons r rest ih =>
    cases rest with
    | nil => simp [seqs]
    | cons next rest =>
      rw [seqs, groups, List.mem_append, ih]
      · simp
      · simp

theorem mem_groups_alts {rs : List Regex} {index : Nat} :
    index ∈ (alts rs).groups ↔ ∃ r ∈ rs, index ∈ r.groups := by
  induction rs with
  | nil => simp [alts, groups]
  | cons r rest ih =>
    cases rest with
    | nil => simp [alts]
    | cons next rest =>
      rw [alts, groups, List.mem_append, ih]
      · simp
      · simp

theorem mem_groups_times {r : Regex} {count index : Nat} (inside : index ∈ (times r count).groups) :
    index ∈ r.groups := by
  obtain ⟨copy, member, inside⟩ := mem_groups_seqs.mp inside
  rwa [List.eq_of_mem_replicate member] at inside

theorem mem_groups_upTo {greedy : Bool} {r : Regex} {count index : Nat}
    (inside : index ∈ (upTo greedy r count).groups) : index ∈ r.groups := by
  induction count with
  | zero => cases inside
  | succ count ih =>
    cases count with
    | zero => exact inside
    | succ count =>
      have round : upTo greedy r (count + 2) =
          optional greedy (seq r (upTo greedy r (count + 1))) := rfl
      rw [round, groups, groups, List.mem_append] at inside
      exact inside.elim id ih

theorem mem_groups_rounds {least : Nat} {most : Option Nat} {greedy : Bool} {r : Regex}
    {index : Nat} (inside : index ∈ (rounds least most greedy r).groups) : index ∈ r.groups := by
  unfold rounds at inside
  split at inside
  · exact inside
  · exact inside
  · exact (List.mem_append.mp inside).elim mem_groups_times id
  · split at inside
    · exact mem_groups_times inside
    · split at inside
      · exact mem_groups_upTo inside
      · exact (List.mem_append.mp inside).elim mem_groups_times mem_groups_upTo

end Regex

mutual

theorem groupNames_eq (ast : Ast) :
    ast.groupNames = ast.captures.filterMap fun capture => capture.2.map (·, capture.1) := by
  match ast with
  | .repetition _ _ _ body => exact groupNames_eq body
  | .group (.capture _ none) body => exact groupNames_eq body
  | .group (.capture index (some name)) body =>
    exact congrArg ((name, index) :: ·) (groupNames_eq body)
  | .group (.plain _) body => exact groupNames_eq body
  | .alternation branches => exact groupNamesOf_eq branches
  | .sequence parts => exact groupNamesOf_eq parts
  | .empty | .flags _ | .literal _ | .dot | .assertion _ | .letter _ _ | .property _ _
  | .bracketed _ _ => rfl

theorem groupNamesOf_eq (asts : List Ast) :
    Ast.groupNamesOf asts =
      (Ast.capturesOf asts).filterMap fun capture => capture.2.map (·, capture.1) := by
  match asts with
  | [] => rfl
  | ast :: rest =>
    rw [Ast.groupNamesOf, Ast.capturesOf, List.filterMap_append, groupNames_eq ast,
      groupNamesOf_eq rest]

end

mutual

theorem captures_shift (groups : Nat) (ast : Ast) :
    (ast.shift groups).captures =
      ast.captures.map fun capture => (capture.1 + groups, capture.2) := by
  match ast with
  | .repetition _ _ _ body => exact captures_shift groups body
  | .group (.capture index name) body =>
    exact congrArg ((index + groups, name) :: ·) (captures_shift groups body)
  | .group (.plain _) body => exact captures_shift groups body
  | .alternation branches => exact capturesOf_shifts groups branches
  | .sequence parts => exact capturesOf_shifts groups parts
  | .empty | .flags _ | .literal _ | .dot | .assertion _ | .letter _ _ | .property _ _
  | .bracketed _ _ => rfl

theorem capturesOf_shifts (groups : Nat) (asts : List Ast) :
    Ast.capturesOf (Ast.shifts groups asts) =
      (Ast.capturesOf asts).map fun capture => (capture.1 + groups, capture.2) := by
  match asts with
  | [] => rfl
  | ast :: rest =>
    rw [Ast.shifts, Ast.capturesOf, Ast.capturesOf, List.map_append, captures_shift groups ast,
      capturesOf_shifts groups rest]

end

mutual

/-- With later numbers for its groups, a pattern means the same with later numbers. -/
theorem toRegex_shift (groups : Nat) (flags : Flags) (ast : Ast) :
    (ast.shift groups).toRegex flags =
      (ast.toRegex flags).map fun meaning => (meaning.1.shift groups, meaning.2) := by
  match ast with
  | .repetition least most greedy body =>
    simp only [Ast.shift, Ast.toRegex, toRegex_shift groups flags body]
    cases body.toRegex flags with
    | error fault => rfl
    | ok meaning =>
      simp only [Except.map, bind, Except.bind, pure, Except.pure, Regex.shift_rounds]
  | .group (.capture index name) body =>
    simp only [Ast.shift, GroupKind.shift, Ast.toRegex, toRegex_shift groups flags body]
    cases body.toRegex flags <;> rfl
  | .group (.plain changes) body =>
    simp only [Ast.shift, GroupKind.shift, Ast.toRegex,
      toRegex_shift groups (flags.setAll changes) body]
    cases body.toRegex (flags.setAll changes) <;> rfl
  | .alternation branches =>
    simp only [Ast.shift, Ast.toRegex, toRegexes_shifts groups flags branches]
    cases Ast.toRegexes flags branches with
    | error fault => rfl
    | ok meaning =>
      simp only [Except.map, bind, Except.bind, pure, Except.pure, Regex.shift_alts]
  | .sequence parts =>
    simp only [Ast.shift, Ast.toRegex, toRegexes_shifts groups flags parts]
    cases Ast.toRegexes flags parts with
    | error fault => rfl
    | ok meaning =>
      simp only [Except.map, bind, Except.bind, pure, Except.pure, Regex.shift_seqs]
  | .empty => rfl
  | .flags _ => rfl
  | .literal l =>
    simp only [Ast.shift, Ast.toRegex]
    cases l.number flags false <;> rfl
  | .dot =>
    simp only [Ast.shift, Ast.toRegex]
    split <;> rfl
  | .assertion _ => rfl
  | .letter kind negated =>
    simp only [Ast.shift, Ast.toRegex]
    cases kind.toClassWith negated flags <;> rfl
  | .property query negated =>
    simp only [Ast.shift, Ast.toRegex]
    cases query.toClass negated flags <;> rfl
  | .bracketed negated set =>
    simp only [Ast.shift, Ast.toRegex]
    cases set.toClass flags with
    | error fault => rfl
    | ok cls =>
      simp only [bind, Except.bind]
      cases bracketClass negated cls flags <;> rfl

theorem toRegexes_shifts (groups : Nat) (flags : Flags) (asts : List Ast) :
    Ast.toRegexes flags (Ast.shifts groups asts) =
      (Ast.toRegexes flags asts).map fun meaning =>
        (meaning.1.map (Regex.shift groups), meaning.2) := by
  match asts with
  | [] => rfl
  | ast :: rest =>
    simp only [Ast.shifts, Ast.toRegexes, toRegex_shift groups flags ast]
    cases ast.toRegex flags with
    | error fault => rfl
    | ok first =>
      simp only [Except.map, bind, Except.bind, toRegexes_shifts groups first.2 rest]
      cases Ast.toRegexes first.2 rest <;> rfl

end

mutual

/-- What a pattern means marks only groups of the pattern. -/
theorem mem_groups_toRegex {flags flags' : Flags} {regex : Regex} (ast : Ast)
    (meaning : ast.toRegex flags = .ok (regex, flags')) {index : Nat}
    (inside : index ∈ regex.groups) : ∃ name, (index, name) ∈ ast.captures := by
  match ast with
  | .repetition least most greedy body =>
    obtain ⟨⟨inner, _⟩, meant, made⟩ := bind_eq_ok.mp meaning
    cases made
    exact mem_groups_toRegex body meant (Regex.mem_groups_rounds inside)
  | .group (.capture number name) body =>
    obtain ⟨⟨inner, _⟩, meant, made⟩ := bind_eq_ok.mp meaning
    cases made
    rcases List.mem_cons.mp inside with rfl | inside
    · exact ⟨name, List.mem_cons_self⟩
    · obtain ⟨name', member⟩ := mem_groups_toRegex body meant inside
      exact ⟨name', List.mem_cons_of_mem _ member⟩
  | .group (.plain changes) body =>
    obtain ⟨⟨inner, _⟩, meant, made⟩ := bind_eq_ok.mp meaning
    cases made
    exact mem_groups_toRegex body meant inside
  | .alternation branches =>
    obtain ⟨⟨inner, _⟩, meant, made⟩ := bind_eq_ok.mp meaning
    cases made
    exact mem_groups_toRegexes branches meant (Regex.mem_groups_alts.mp inside)
  | .sequence parts =>
    obtain ⟨⟨inner, _⟩, meant, made⟩ := bind_eq_ok.mp meaning
    cases made
    exact mem_groups_toRegexes parts meant (Regex.mem_groups_seqs.mp inside)
  | .empty | .flags _ | .assertion _ =>
    cases meaning
    cases inside
  | .literal l | .letter _ _ | .property _ _ =>
    obtain ⟨_, _, made⟩ := bind_eq_ok.mp meaning
    cases made
    cases inside
  | .dot =>
    simp only [Ast.toRegex] at meaning
    split at meaning <;> cases meaning
    cases inside
  | .bracketed negated set =>
    obtain ⟨_, _, meaning⟩ := bind_eq_ok.mp meaning
    obtain ⟨_, _, made⟩ := bind_eq_ok.mp meaning
    cases made
    cases inside

theorem mem_groups_toRegexes {flags flags' : Flags} {regexes : List Regex} (asts : List Ast)
    (meaning : Ast.toRegexes flags asts = .ok (regexes, flags')) {index : Nat}
    (inside : ∃ regex ∈ regexes, index ∈ regex.groups) :
    ∃ name, (index, name) ∈ Ast.capturesOf asts := by
  match asts with
  | [] =>
    cases meaning
    obtain ⟨regex, member, -⟩ := inside
    cases member
  | ast :: rest =>
    obtain ⟨⟨first, _⟩, meant, meaning⟩ := bind_eq_ok.mp meaning
    obtain ⟨⟨others, _⟩, meant', made⟩ := bind_eq_ok.mp meaning
    cases made
    obtain ⟨regex, member, inside⟩ := inside
    rcases List.mem_cons.mp member with rfl | member
    · obtain ⟨name, found⟩ := mem_groups_toRegex ast meant inside
      exact ⟨name, List.mem_append_left _ found⟩
    · obtain ⟨name, found⟩ := mem_groups_toRegexes rest meant' ⟨regex, member, inside⟩
      exact ⟨name, List.mem_append_right _ found⟩

end

end LocaleLint.Pattern
