import Mathlib
import LocaleLint.Proofs.Pattern.Marks
import LocaleLint.Proofs.Pattern.Numbering

/-!
# Choices between patterns in groups

A pattern that is put together of patterns in groups matches at a place as the first of them that
matches there does alone, and its groups are those of all of them.
-/

namespace LocaleLint.Pattern

theorem ofText_eq_ok {text : Text} {ast : Ast} {captures : Nat} :
    Ast.ofText text = .ok (ast, captures) ↔ ∃ final, (Reading.start text).finish = .ok final ∧
      final.groups = [] ∧ final.level.close.depth ≤ nestingLimit ∧ ast = final.level.close ∧
        captures = final.captures := by
  unfold Ast.ofText
  rw [bind_eq_ok]
  refine exists_congr fun final => and_congr Iff.rfl ?_
  by_cases opened : final.groups = []
  · by_cases deep : nestingLimit < final.level.close.depth
    · simp only [opened, ne_eq, not_true, if_false, deep, if_true]
      constructor
      · nofun
      · rintro ⟨-, shallow, -⟩
        omega
    · simp only [opened, ne_eq, not_true, if_false, deep, true_and, Nat.le_of_not_lt deep]
      constructor
      · intro same
        cases same
        exact ⟨rfl, rfl⟩
      · rintro ⟨rfl, rfl⟩
        rfl
  · simp only [opened, ne_eq, not_false_eq_true, if_true, false_and, iff_false]
    nofun

theorem compile_eq_ok {flags : Flags} {text : Text} {pattern : LocaleLint.Pattern} :
    compile flags text = .ok pattern ↔ ∃ final regex flags',
      (Reading.start text).finish = .ok final ∧ final.groups = [] ∧
        final.level.close.depth ≤ nestingLimit ∧
          final.level.close.toRegex flags = .ok (regex, flags') ∧
            pattern = ⟨regex.program, final.captures, final.level.close.groupNames⟩ := by
  unfold compile
  rw [bind_eq_ok]
  constructor
  · rintro ⟨⟨ast, captures⟩, read, compiled⟩
    obtain ⟨final, finished, closed, shallow, rfl, rfl⟩ := ofText_eq_ok.mp read
    obtain ⟨⟨regex, flags'⟩, meant, made⟩ := bind_eq_ok.mp compiled
    cases made
    exact ⟨final, regex, flags', finished, closed, shallow, meant, rfl⟩
  · rintro ⟨final, regex, flags', finished, closed, shallow, meant, rfl⟩
    exact ⟨_, ofText_eq_ok.mpr ⟨final, finished, closed, shallow, rfl, rfl⟩,
      bind_eq_ok.mpr ⟨_, meant, rfl⟩⟩

/-- A branch of a choice: how its reading ends, and what it means. -/
structure Branch where
  final : Reading
  regex : Regex

/-- A text is a branch, if it is a pattern both alone and in a group. -/
structure Branch.Of (flags : Flags) (source : Text) (branch : Branch) : Prop where
  closes : Reading.Closes source branch.final
  means : ∃ flags', branch.final.level.close.toRegex flags = .ok (branch.regex, flags')

/-- The branches of a choice with the numbers of groups before them. -/
def numbered : (captures : Nat) → List Branch → List (Nat × Branch)
  | _, [] => []
  | captures, branch :: rest =>
    (captures, branch) :: numbered (branch.final.captures + captures) rest

theorem numbered_append (captures : Nat) (before after : List Branch) :
    numbered captures (before ++ after) = numbered captures before ++
      numbered ((before.map fun branch => branch.final.captures).sum + captures) after := by
  induction before generalizing captures with
  | nil => simp [numbered]
  | cons branch before ih =>
    rw [List.cons_append, numbered, numbered, ih, List.map_cons, List.sum_cons, List.cons_append]
    congr 3
    omega

theorem gather_eq_map (captures : Nat) (branches : List Branch) :
    Reading.gather captures (branches.map Branch.final) = (numbered captures branches).map
      fun branch => .group (.plain []) (branch.2.final.level.close.shift branch.1) := by
  induction branches generalizing captures with
  | nil => rfl
  | cons branch branches ih =>
    rw [List.map_cons, Reading.gather, numbered, List.map_cons, ih]

theorem toRegexes_gather {flags : Flags} {sources : List Text} {branches : List Branch}
    (each : List.Forall₂ (Branch.Of flags) sources branches) (captures : Nat) :
    Ast.toRegexes flags (Reading.gather captures (branches.map Branch.final)) =
      .ok ((numbered captures branches).map fun branch => branch.2.regex.shift branch.1,
        flags) := by
  induction each generalizing captures with
  | nil => rfl
  | @cons source branch sources branches first _ ih =>
    obtain ⟨flags', means⟩ := first.means
    have group : Ast.toRegex flags
        (.group (.plain []) (branch.final.level.close.shift captures)) =
          .ok (branch.regex.shift captures, flags) := by
      have none : flags.setAll [] = flags := rfl
      simp only [Ast.toRegex, none, toRegex_shift, means]
      rfl
    simp only [List.map_cons, Reading.gather, numbered, Ast.toRegexes, group, ih, bind, Except.bind]
    rfl

theorem toRegex_choice (flags : Flags) {asts : List Ast} (some : asts ≠ []) :
    (Reading.choice asts).toRegex flags =
      (Ast.toRegexes flags asts).map fun meaning => (Regex.alts meaning.1, meaning.2) := by
  match asts with
  | [] => exact absurd rfl some
  | [ast] =>
    rw [Reading.choice, Ast.toRegexes]
    cases ast.toRegex flags <;> rfl
  | first :: second :: rest =>
    rw [Reading.choice, Ast.toRegex]
    · cases Ast.toRegexes flags (first :: second :: rest) <;> rfl
    · simp

theorem captures_choice (asts : List Ast) :
    (Reading.choice asts).captures = asts.flatMap Ast.captures := by
  match asts with
  | [] => rfl
  | [ast] => simp [Reading.choice]
  | first :: second :: rest =>
    rw [Reading.choice, Ast.captures, Ast.capturesOf_eq_flatMap]
    simp

theorem groupNames_choice (asts : List Ast) :
    (Reading.choice asts).groupNames = asts.flatMap Ast.groupNames := by
  rw [groupNames_eq, captures_choice, List.filterMap_flatMap]
  congr 1
  funext ast
  rw [groupNames_eq]

theorem groupNames_shift (groups : Nat) (ast : Ast) :
    (ast.shift groups).groupNames = ast.groupNames.map fun name => (name.1, name.2 + groups) := by
  rw [groupNames_eq, groupNames_eq, captures_shift, List.filterMap_map, List.map_filterMap]
  congr 1
  funext capture
  obtain ⟨index, name⟩ := capture
  cases name <;> rfl

/-- The names of the groups of a branch, in the choice. -/
def namesOf (branch : Nat × Branch) : List (Text × Nat) :=
  branch.2.final.level.close.groupNames.map fun name => (name.1, name.2 + branch.1)

/-- What a text of patterns in groups is compiled to. -/
theorem compile_choice {flags : Flags} {sources : List Text} {branches : List Branch}
    {pattern : LocaleLint.Pattern}
    (each : List.Forall₂ (Branch.Of flags) sources branches) (some : sources ≠ [])
    (compiled : compile flags (Text.joinWith ['|']
      (sources.map fun source => "(?:".toList ++ source ++ [')'])) = .ok pattern) :
    (∀ place, matchAt pattern.program place = (numbered 0 branches).findSome? fun branch =>
      (matchAt branch.2.regex.program place).map (Match.shift branch.1)) ∧
    pattern.groupCount = (branches.map fun branch => branch.final.captures).sum ∧
    pattern.groupNames = (numbered 0 branches).flatMap namesOf ∧
    (branches.flatMap fun branch => branch.final.names).Nodup := by
  obtain ⟨final, regex, flags', finished, closed, shallow, meant, rfl⟩ := compile_eq_ok.mp compiled
  have closes : List.Forall₂ Reading.Closes sources (branches.map Branch.final) :=
    List.forall₂_map_right_iff.mpr (each.imp fun _ _ branch => branch.closes)
  obtain ⟨close, captures, names⟩ := Reading.finish_join closes some finished
  rw [List.reverse_nil, List.nil_append] at close
  have more : branches ≠ [] := by
    rintro rfl
    exact some (List.forall₂_nil_right_iff.mp each)
  have gathered : Reading.gather 0 (branches.map Branch.final) ≠ [] := by
    cases branches with
    | nil => exact absurd rfl more
    | cons branch branches => exact List.cons_ne_nil _ _
  rw [close, toRegex_choice flags gathered, toRegexes_gather each 0] at meant
  cases meant
  refine ⟨fun place => ?_, ?_, ?_, ?_⟩
  · have all : (numbered 0 branches).map (fun branch => (branch.1, branch.2.regex)) ≠ [] := by
      cases branches with
      | nil => exact absurd rfl more
      | cons branch branches => exact List.cons_ne_nil _ _
    have alts := matchAt_alts all place
    rw [List.map_map, List.findSome?_map] at alts
    exact alts
  · rw [captures, List.map_map, Nat.add_zero]
    rfl
  · dsimp only
    rw [close, groupNames_choice, gather_eq_map, List.flatMap_map]
    exact List.flatMap_congr fun branch _ => groupNames_shift ..
  · have distinct := (Reading.numbered_finish (Reading.numbered_start _) finished).distinct
    rw [names, List.nil_append, List.flatMap_map] at distinct
    exact distinct

/-- How many groups some branches have. -/
def total (branches : List Branch) : Nat := (branches.map fun branch => branch.final.captures).sum

theorem mem_numbered {branches : List Branch} {captures : Nat} {branch : Nat × Branch}
    (inside : branch ∈ numbered captures branches) :
    branch.2 ∈ branches ∧ captures ≤ branch.1 ∧
      branch.1 + branch.2.final.captures ≤ captures + total branches := by
  induction branches generalizing captures with
  | nil => cases inside
  | cons first rest ih =>
    have sum : total (first :: rest) = first.final.captures + total rest := by
      simp [total]
    rcases List.mem_cons.mp inside with rfl | inside
    · exact ⟨List.mem_cons_self, Nat.le_refl _, by dsimp only; omega⟩
    · obtain ⟨member, low, high⟩ := ih inside
      exact ⟨List.mem_cons_of_mem _ member, by omega, by omega⟩

section
variable {flags flags' : Flags} {source : Text} {final : Reading} {regex : Regex} {branch : Branch}

/-- What a text means marks only groups that were counted when it was read. -/
theorem groups_of_finish (finished : (Reading.start source).finish = .ok final)
    (meant : final.level.close.toRegex flags = .ok (regex, flags')) :
    ∀ index ∈ regex.groups, 0 < index ∧ index ≤ final.captures := by
  intro index inside
  obtain ⟨name, captured⟩ := mem_groups_toRegex _ meant inside
  exact (Reading.numbered_finish (Reading.numbered_start _) finished).numbers _
    (List.mem_append_left _ (mem_captures_close.mp captured))

theorem mem_groupNames {ast : Ast} {name : Text × Nat} :
    name ∈ ast.groupNames ↔ (name.2, some name.1) ∈ ast.captures := by
  rw [groupNames_eq, List.mem_filterMap]
  constructor
  · rintro ⟨⟨index, _⟩, captured, same⟩
    obtain ⟨_, rfl, same⟩ := Option.map_eq_some_iff.mp same
    cases same
    exact captured
  · intro captured
    exact ⟨_, captured, rfl⟩

/-- The names of groups were noted when the text was read. -/
theorem names_of_finish (finished : (Reading.start source).finish = .ok final) :
    ∀ name ∈ final.level.close.groupNames,
      (0 < name.2 ∧ name.2 ≤ final.captures) ∧ name.1 ∈ final.names := by
  intro name inside
  have numbered := Reading.numbered_finish (Reading.numbered_start _) finished
  have marked : (name.2, some name.1) ∈ final.marked :=
    List.mem_append_left _ (mem_captures_close.mp (mem_groupNames.mp inside))
  exact ⟨numbered.numbers _ marked, (numbered.names name.1).mpr ⟨name.2, marked⟩⟩

/-- The names that were noted when the text was read are those of its groups. -/
theorem mem_names_of_finish (finished : (Reading.start source).finish = .ok final)
    (closed : final.groups = []) {name : Text} :
    name ∈ final.names ↔ name ∈ final.level.close.groupNames.map Prod.fst := by
  have numbered := Reading.numbered_finish (Reading.numbered_start _) finished
  rw [numbered.names, List.mem_map]
  simp only [Reading.marked, closed, List.flatMap_nil, List.append_nil, ← mem_captures_close]
  constructor
  · rintro ⟨index, captured⟩
    exact ⟨(name, index), mem_groupNames.mpr captured, rfl⟩
  · rintro ⟨⟨_, index⟩, inside, rfl⟩
    exact ⟨index, mem_groupNames.mp inside⟩

theorem Branch.Of.groups (pattern : branch.Of flags source) :
    ∀ index ∈ branch.regex.groups, 0 < index ∧ index ≤ branch.final.captures := by
  obtain ⟨flags', means⟩ := pattern.means
  exact groups_of_finish pattern.closes.alone means

theorem Branch.Of.names (pattern : branch.Of flags source) :
    ∀ name ∈ branch.final.level.close.groupNames,
      (0 < name.2 ∧ name.2 ≤ branch.final.captures) ∧ name.1 ∈ branch.final.names :=
  names_of_finish pattern.closes.alone

/-- A match of a pattern marks only its groups, and only positions in the match. -/
theorem marks_compile {pattern : LocaleLint.Pattern} (compiled : compile flags source = .ok pattern)
    {place : Place} {m : Match} (found : matchAt pattern.program place = some m) :
    ∀ mark ∈ m.marks, (0 < mark.1 / 2 ∧ mark.1 / 2 ≤ pattern.groupCount) ∧
      m.start ≤ mark.2 ∧ mark.2 ≤ m.stop := by
  obtain ⟨final, regex, flags', finished, -, -, meant, rfl⟩ := compile_eq_ok.mp compiled
  intro mark marked
  obtain ⟨group, within⟩ := marks_matchAt found mark marked
  exact ⟨groups_of_finish finished meant _ group, within⟩

/-- A group of a match of a pattern is a part of it. -/
theorem group?_compile {pattern : LocaleLint.Pattern}
    (compiled : compile flags source = .ok pattern) {place : Place} {m : Match}
    (found : matchAt pattern.program place = some m) {index first last : Nat}
    (group : m.group? index = some (first, last)) :
    m.start ≤ first ∧ first ≤ last ∧ last ≤ m.stop := by
  obtain ⟨_, _, _, -, -, -, -, rfl⟩ := compile_eq_ok.mp compiled
  exact group?_matchAt found group

end

theorem lookup_shift (marks : Marks) (groups slot : Nat) :
    (marks.shift groups).lookup (slot + 2 * groups) = marks.lookup slot := by
  induction marks with
  | nil => rfl
  | cons mark marks ih =>
    obtain ⟨slot', position⟩ := mark
    rw [Marks.shift, List.map_cons, List.lookup_cons, List.lookup_cons]
    have same : (slot + 2 * groups == slot' + 2 * groups) = (slot == slot') := by
      rw [Bool.eq_iff_iff, beq_iff_eq, beq_iff_eq]
      omega
    rw [same]
    split
    · rfl
    · exact ih

theorem group?_shift (m : Match) (groups index : Nat) :
    (m.shift groups).group? (index + groups) = m.group? index := by
  have opens : 2 * (index + groups) = 2 * index + 2 * groups := by omega
  have closes : 2 * (index + groups) + 1 = 2 * index + 1 + 2 * groups := by omega
  rw [Match.group?, Match.group?, opens, Match.shift, lookup_shift, ← opens, closes, lookup_shift]

theorem group?_eq_none {m : Match} {index : Nat} (other : ∀ mark ∈ m.marks, mark.1 / 2 ≠ index) :
    m.group? index = none := by
  have missing : m.marks.lookup (2 * index) = none := by
    rw [List.lookup_eq_none_iff]
    intro mark inside
    have := other mark inside
    rw [bne_iff_ne]
    omega
  rw [Match.group?, missing]
  rfl

/-- A match of a branch has no group of another branch. -/
theorem group?_shift_eq_none {flags : Flags} {source : Text} {branch : Branch}
    (pattern : branch.Of flags source) {place : Place} {m : Match}
    (found : matchAt branch.regex.program place = some m) {groups index : Nat}
    (other : index ≤ groups ∨ groups + branch.final.captures < index) :
    (m.shift groups).group? index = none := by
  apply group?_eq_none
  intro mark inside
  obtain ⟨⟨slot, position⟩, marked, rfl⟩ := List.mem_map.mp inside
  have := pattern.groups _ (marks_matchAt found _ marked).1
  dsimp only at this ⊢
  omega

section
variable {flags : Flags} {sources : List Text} {before after : List Branch} {branch : Branch}

theorem numbered_middle : numbered 0 (before ++ branch :: after) = numbered 0 before ++
    (total before, branch) :: numbered (branch.final.captures + total before) after := by
  rw [numbered_append, Nat.add_zero]
  rfl

private theorem lookup_map_shift (names : List (Text × Nat)) (groups : Nat) (name : Text) :
    (names.map fun name => (name.1, name.2 + groups)).lookup name =
      (names.lookup name).map (· + groups) := by
  induction names with
  | nil => rfl
  | cons first names ih =>
    rw [List.map_cons, List.lookup_cons, List.lookup_cons, ih]
    split <;> rfl

/-- The number and the branch of a name that is found. -/
private theorem exists_of_lookup {branches : List Branch} {captures index : Nat} {name : Text}
    (each : ∀ other ∈ branches, ∃ source, other.Of flags source)
    (found : ((numbered captures branches).flatMap namesOf).lookup name = some index) :
    captures < index ∧ index ≤ captures + total branches ∧
      ∃ other ∈ branches, name ∈ other.final.names := by
  obtain ⟨⟨first, other⟩, member, shifted⟩ := List.mem_flatMap.mp (mem_of_lookup found)
  obtain ⟨⟨name', index'⟩, named, same⟩ := List.mem_map.mp shifted
  cases same
  obtain ⟨member, low, high⟩ := mem_numbered member
  obtain ⟨source, pattern⟩ := each other member
  obtain ⟨bounds, noted⟩ := pattern.names _ named
  dsimp only at low high bounds noted member
  exact ⟨by omega, by omega, other, member, noted⟩

/-- A group with a name in a match of a branch is the one that has the name in the branch. -/
theorem named_shift {source : Text} (each : ∀ other ∈ before ++ branch :: after,
      ∃ source, other.Of flags source) (pattern : branch.Of flags source)
    (distinct : ((before ++ branch :: after).flatMap fun branch => branch.final.names).Nodup)
    {place : Place} {m : Match} (found : matchAt branch.regex.program place = some m)
    (name : Text) :
    (((numbered 0 (before ++ branch :: after)).flatMap namesOf).lookup name).bind
        (m.shift (total before)).group? =
      (branch.final.level.close.groupNames.lookup name).bind m.group? := by
  rw [numbered_middle, List.flatMap_append, List.flatMap_cons, List.lookup_append,
    List.lookup_append]
  cases early : ((numbered 0 before).flatMap namesOf).lookup name with
  | some index =>
    obtain ⟨-, high, other, member, noted⟩ := exists_of_lookup
      (fun other member => each other (List.mem_append_left _ member)) early
    have foreign : branch.final.level.close.groupNames.lookup name = none := by
      rw [List.lookup_eq_none_iff]
      intro pair inside
      rw [bne_iff_ne]
      rintro rfl
      rw [List.flatMap_append, List.nodup_append] at distinct
      refine distinct.2.2 _ (List.mem_flatMap.mpr ⟨other, member, noted⟩) pair.1 ?_ rfl
      rw [List.flatMap_cons]
      exact List.mem_append_left _ (pattern.names pair inside).2
    rw [Option.some_or, Option.bind_some, foreign, Option.bind_none]
    exact group?_shift_eq_none pattern found (.inl (by omega))
  | none =>
    rw [Option.none_or, namesOf, lookup_map_shift]
    cases own : branch.final.level.close.groupNames.lookup name with
    | some index =>
      rw [Option.map_some, Option.some_or, Option.bind_some, Option.bind_some, group?_shift]
    | none =>
      rw [Option.map_none, Option.none_or, Option.bind_none]
      cases late : ((numbered (branch.final.captures + total before) after).flatMap
          namesOf).lookup name with
      | none => rfl
      | some index =>
        obtain ⟨low, -, -⟩ := exists_of_lookup
          (fun other member => each other (List.mem_append_right _ (List.mem_cons_of_mem _ member)))
          late
        exact group?_shift_eq_none pattern found (.inr (by omega))

/-- The groups that take part in a match of a branch are those of the branch. -/
theorem groups_shift (before after : List Branch) {source : Text}
    (pattern : branch.Of flags source) {place : Place} {m : Match}
    (found : matchAt branch.regex.program place = some m) :
    ((List.range (total (before ++ branch :: after))).map fun i =>
        (m.shift (total before)).group? (i + 1)).filterMap id =
      ((List.range branch.final.captures).map fun i => m.group? (i + 1)).filterMap id := by
  have sum : total (before ++ branch :: after) =
      total before + (branch.final.captures + total after) := by
    simp [total]
  have early : ((List.range (total before)).map fun i =>
      (m.shift (total before)).group? (i + 1)).filterMap id = [] := by
    rw [List.filterMap_map, List.filterMap_eq_nil_iff]
    intro i inside
    have := List.mem_range.mp inside
    exact group?_shift_eq_none pattern found (.inl (by omega))
  have late : ((List.range (total after)).map fun i =>
      (m.shift (total before)).group?
        (total before + (branch.final.captures + i) + 1)).filterMap id =
        [] := by
    rw [List.filterMap_map, List.filterMap_eq_nil_iff]
    intro i _
    exact group?_shift_eq_none pattern found (.inr (by omega))
  have own (i : Nat) : (m.shift (total before)).group? (total before + i + 1) =
      m.group? (i + 1) := by
    rw [← group?_shift m (total before)]
    congr 1
    omega
  rw [sum, List.range_add, List.range_add]
  simp only [List.map_append, List.map_map, List.filterMap_append, early, List.nil_append]
  refine (congrArg₂ _ ?_ late).trans (List.append_nil _)
  exact congrArg (List.filterMap id) (List.map_congr_left fun i _ => own i)

end

end LocaleLint.Pattern
