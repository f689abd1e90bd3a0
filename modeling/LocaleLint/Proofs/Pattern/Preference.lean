import Mathlib
import LocaleLint.Proofs.Pattern.Naming
import LocaleLint.Proofs.Pattern.Scan

/-!
# A branch in front of a pattern

A pattern in front of which another branch is put is read as before, with its groups numbered later.
The new pattern matches as the branch where that matches, and as the old one elsewhere. So a scan
with the new pattern finds the old matches, up to the first that overlaps a match of the branch.
-/

namespace LocaleLint.Pattern

/-! ## Reading behind a branch -/

/-- A branch in front of a pattern, how many groups it has, and their names. -/
structure Front where
  branch : Ast
  captures : Nat
  names : List Text

/-- A level behind a front, which adds its branch at the bottom only. -/
def Level.behind (front : Front) (bottom : Bool) (level : Level) : Level :=
  ⟨level.branches.map (Ast.shift front.captures) ++ if bottom then [front.branch] else [],
    level.parts.map (Ast.shift front.captures)⟩

theorem Level.behind_false (front : Front) (level : Level) :
    level.behind front false = level.shift front.captures := by
  rw [behind, if_neg Bool.false_ne_true, List.append_nil, Level.shift]

/-- Open groups behind a front; the last one stands at the bottom. -/
def groupsBehind (front : Front) : List OpenGroup → List OpenGroup
  | [] => []
  | group :: groups =>
    ⟨group.kind.shift front.captures, group.outer.behind front groups.isEmpty, group.verbose⟩ ::
      groupsBehind front groups

@[simp] theorem isEmpty_groupsBehind (front : Front) (groups : List OpenGroup) :
    (groupsBehind front groups).isEmpty = groups.isEmpty := by
  cases groups <;> rfl

namespace Reading

def behind (front : Front) (reading : Reading) : Reading where
  level := reading.level.behind front reading.groups.isEmpty
  groups := groupsBehind front reading.groups
  verbose := reading.verbose
  captures := reading.captures + front.captures
  names := front.names ++ reading.names
  rest := reading.rest

/-- A reading put behind a front, unless one of its names is taken there. -/
def putBehind (front : Front) (reading : Reading) : Except Fault Reading :=
  if Taken reading.names front.names then .error .groupNameDuplicate
  else .ok (reading.behind front)

section
variable {front : Front} {reading : Reading} (free : ¬ Taken reading.names front.names)

include free in
private theorem openGroup_behind (rest : Text) :
    (reading.behind front).openGroup rest = (reading.openGroup rest).bind (putBehind front) := by
  have verbose : (reading.behind front).verbose = reading.verbose := rfl
  have names : (reading.behind front).names = front.names ++ reading.names := rfl
  unfold openGroup
  rw [verbose, names, readOpener_eq _ (front.names ++ reading.names), readOpener_eq _ reading.names]
  cases readOpener reading.verbose [] rest with
  | error fault => rfl
  | ok found =>
    obtain ⟨opener, left⟩ := found
    -- Nothing is refused that gives no name.
    have unnamed (taken : List Text) (none : opener.names = []) :
        refuse taken (opener, left) = .ok (opener, left) := by
      rw [refuse, none, if_neg (by simp [Taken])]
    simp only [Except.bind]
    cases opener with
    | flags changes =>
      rw [unnamed _ rfl, unnamed _ rfl]
      exact (if_neg free).symm
    | plain flags =>
      rw [unnamed _ rfl, unnamed _ rfl]
      exact (if_neg free).symm
    | capture name =>
      have given : Opener.names (.capture name) = name.toList := rfl
      rw [refuse, refuse, given]
      by_cases own : Taken name.toList reading.names
      · rw [if_pos (taken_append_right.mpr (.inr own)), if_pos own]
        rfl
      · rw [if_neg own]
        by_cases other : Taken name.toList front.names
        · rw [if_pos (taken_append_right.mpr (.inl other))]
          exact (if_pos (taken_append_left.mpr (.inr other))).symm
        · rw [if_neg fun either => (taken_append_right.mp either).elim other own]
          have unnoted : ¬ Taken (reading.names ++ name.toList) front.names := fun either =>
            (taken_append_left.mp either).elim free other
          refine Eq.trans ?_ (if_neg unnoted).symm
          simp only [enter, behind, groupsBehind, GroupKind.shift, List.append_assoc,
            Nat.add_right_comm]
          rfl

private theorem closeGroup_behind (rest : Text) :
    (reading.behind front).closeGroup rest = (reading.closeGroup rest).map (behind front) := by
  obtain ⟨level, groups, verbose, captures, names, _⟩ := reading
  cases groups with
  | nil => rfl
  | cons group groups =>
    have inner : (level.behind front false).close = level.close.shift front.captures := by
      rw [Level.behind_false, close_shift]
    exact congrArg (fun close => Except.ok (⟨(group.outer.behind front groups.isEmpty).push
      (.group (group.kind.shift front.captures) close), groupsBehind front groups, group.verbose,
      captures + front.captures, front.names ++ names, rest⟩ : Reading)) inner

private theorem branch_behind (rest : Text) :
    (reading.behind front).branch rest = (reading.branch rest).behind front := by
  simp only [branch, behind, Level.behind, List.map_cons, List.cons_append, sequenceOf_shift,
    List.map_nil]
  rfl

private theorem push_behind {part : Ast} (ungrouped : part.shift front.captures = part)
    (rest : Text) :
    (reading.behind front).push part rest = (reading.push part rest).behind front := by
  simp only [push, behind, Level.push, Level.behind, List.map_cons, ungrouped]
  rfl

private theorem takePart_behind :
    (reading.behind front).takePart = reading.takePart.map fun (part, parts) =>
      (part.shift front.captures, parts.map (Ast.shift front.captures)) := by
  obtain ⟨⟨branches, parts⟩, groups, verbose, captures, names, rest⟩ := reading
  cases parts with
  | nil => rfl
  | cons part parts =>
    simp only [takePart, behind, Level.behind, List.map_cons, isRepeatable_shift]
    split <;> rfl

private theorem repeated_behind (read : Except Fault ((Nat × Option Nat × Bool) × Text)) :
    ((reading.behind front).takePart.bind fun last => read.map fun count =>
        (reading.behind front).repeated last.1 last.2 count.1 count.2) =
      (reading.takePart.bind fun last => read.map fun count =>
        reading.repeated last.1 last.2 count.1 count.2).map (behind front) := by
  rw [takePart_behind]
  cases reading.takePart with
  | error fault => rfl
  | ok last => cases read <;> rfl

/-- A step that opens no group leads to the same behind a front. -/
private theorem step_behind_map {c : Char} (other : c ≠ '(') (rest : Text) :
    (reading.behind front).step c rest = (reading.step c rest).map (behind front) := by
  unfold step
  split
  · exact absurd rfl other
  · exact closeGroup_behind rest
  · exact congrArg Except.ok (branch_behind rest)
  · change (readClass reading.verbose rest).map _ = _
    cases read : readClass reading.verbose rest with
    | error fault => rfl
    | ok found =>
      obtain ⟨set, left⟩ := found
      obtain ⟨-, ⟨negated, class_, rfl⟩, -⟩ := readClass_append read
      exact congrArg Except.ok (push_behind rfl left)
  iterate 3
    · simp only [repeatPart_eq, repeated_behind]
  · rw [repeatCounted_eq, repeatCounted_eq]
    exact repeated_behind _
  · change (readEscape reading.verbose rest).map _ = _
    cases readEscape reading.verbose rest with
    | error fault => rfl
    | ok found =>
      have ungrouped : (ofPrimitive found.1).shift front.captures = ofPrimitive found.1 := by
        cases found.1 <;> rfl
      exact congrArg Except.ok (push_behind ungrouped found.2)
  all_goals exact congrArg Except.ok (push_behind rfl rest)

include free in
/-- A step behind a front leads to the same behind the front, unless it notes a name that is
taken. -/
theorem step_behind (c : Char) (rest : Text) :
    (reading.behind front).step c rest = (reading.step c rest).bind (putBehind front) := by
  by_cases opens : c = '('
  · subst opens
    exact openGroup_behind free rest
  · rw [step_behind_map opens]
    cases stepped : reading.step c rest with
    | error fault => rfl
    | ok next =>
      obtain ⟨_, names, none⟩ := names_step stepped
      rw [none opens, List.append_nil] at names
      exact (if_neg (names ▸ free)).symm

end

/-- A reading behind a front that comes to an end comes to the same end alone. -/
theorem exists_finish_of_behind {front : Front} {reading found : Reading}
    (free : ¬ Taken reading.names front.names)
    (finished : (reading.behind front).finish = .ok found) :
    ∃ final, reading.finish = .ok final ∧ found = final.behind front := by
  induction reading using stepwise with
  | ended reading skipped =>
    have ended : (reading.behind front).finish = .ok (reading.behind front) := finish_end skipped
    rw [ended] at finished
    cases finished
    exact ⟨reading, finish_end skipped, rfl⟩
  | going reading c rest skipped ih =>
    rw [finish_step (reading.behind front) skipped, step_behind free] at finished
    rw [finish_step _ skipped]
    obtain ⟨_, placed, finished⟩ := bind_eq_ok.mp finished
    obtain ⟨next, stepped, placed⟩ := bind_eq_ok.mp placed
    unfold putBehind at placed
    split at placed <;> cases placed
    rename_i free'
    obtain ⟨final, finished, same⟩ := ih next stepped free' finished
    exact ⟨final, bind_eq_ok.mpr ⟨next, stepped, finished⟩, same⟩

/-- A reading that comes to an end comes to the same end behind a front, unless a name is taken. -/
theorem finish_behind {front : Front} {reading final : Reading}
    (free : ¬ Taken reading.names front.names) (finished : reading.finish = .ok final) :
    (reading.behind front).finish = final.putBehind front := by
  induction reading using stepwise with
  | ended reading skipped =>
    have ended : (reading.behind front).finish = .ok (reading.behind front) := finish_end skipped
    rw [finish_end skipped] at finished
    cases finished
    exact ended.trans (if_neg free).symm
  | going reading c rest skipped ih =>
    rw [finish_step _ skipped] at finished
    rw [finish_step (reading.behind front) skipped, step_behind free]
    obtain ⟨next, stepped, finished⟩ := bind_eq_ok.mp finished
    rw [stepped]
    change (next.putBehind front).bind finish = _
    by_cases taken : Taken next.names front.names
    · obtain ⟨name, noted, inside⟩ := taken
      have later : Taken final.names front.names := ⟨name, names_finish finished noted, inside⟩
      rw [putBehind, if_pos ⟨name, noted, inside⟩, putBehind, if_pos later]
      rfl
    · rw [putBehind, if_neg taken]
      exact ih next stepped taken finished

/-- Behind a front, what has been read is a choice between the front and what it is alone. -/
theorem close_behind (front : Front) (level : Level) :
    ∃ branches, branches ≠ [] ∧ level.close = choice branches ∧
      (level.behind front true).close =
        choice (front.branch :: branches.map (Ast.shift front.captures)) := by
  refine ⟨(sequenceOf level.parts :: level.branches).reverse, by simp, close_eq level, ?_⟩
  rw [close_eq]
  simp [Level.behind, sequenceOf_shift]

end Reading

/-! ## Depth behind a branch -/

mutual

theorem depth_shift (groups : Nat) : ∀ ast : Ast, (ast.shift groups).depth = ast.depth
  | .repetition _ _ _ body => congrArg (· + 1) (depth_shift groups body)
  | .group _ body => congrArg (· + 1) (depth_shift groups body)
  | .alternation branches => congrArg (· + 1) (depths_shift groups branches)
  | .sequence parts => congrArg (· + 1) (depths_shift groups parts)
  | .empty | .flags _ | .literal _ | .dot | .assertion _ | .letter _ _ | .property _ _
  | .bracketed _ _ => rfl

private theorem depths_shift (groups : Nat) :
    ∀ asts : List Ast, Ast.depths (Ast.shifts groups asts) = Ast.depths asts
  | [] => rfl
  | ast :: rest => congrArg₂ max (depth_shift groups ast) (depths_shift groups rest)

end

theorem depths_le_iff {asts : List Ast} {limit : Nat} :
    Ast.depths asts ≤ limit ↔ ∀ ast ∈ asts, ast.depth ≤ limit := by
  induction asts with
  | nil => simp [Ast.depths]
  | cons ast rest ih => simp [Ast.depths, ih]

theorem depth_alternation_le_iff {level : Level} (several : level.branches ≠ []) {limit : Nat} :
    level.close.depth ≤ limit ↔ (sequenceOf level.parts).depth < limit ∧
      ∀ ast ∈ level.branches, ast.depth < limit := by
  obtain ⟨branches, parts⟩ := level
  obtain ⟨branch, branches, rfl⟩ := List.exists_cons_of_ne_nil several
  rw [Level.close, Ast.depth]
  cases limit with
  | zero => simp
  | succ limit =>
    rw [Nat.add_le_add_iff_right, depths_le_iff]
    simp only [List.mem_reverse, List.mem_cons, forall_eq_or_imp, Nat.lt_succ_iff]

/-- A choice does not nest deeper behind a front, if the front fits into a choice. -/
theorem depth_behind_le {front : Front} {level : Level} {limit : Nat}
    (shallow : front.branch.depth < limit) (several : level.branches ≠ [])
    (fits : level.close.depth ≤ limit) : (level.behind front true).close.depth ≤ limit := by
  obtain ⟨last, others⟩ := (depth_alternation_le_iff several).mp fits
  refine (depth_alternation_le_iff (by simp [Level.behind])).mpr ⟨?_, fun ast inside => ?_⟩
  · rw [Level.behind, sequenceOf_shift, depth_shift]
    exact last
  · rcases List.mem_append.mp inside with old | new
    · obtain ⟨branch, member, rfl⟩ := List.mem_map.mp old
      rw [depth_shift]
      exact others branch member
    · cases List.mem_singleton.mp new
      exact shallow

/-- A choice behind a front nests at least as deep as it does alone. -/
theorem depth_le_of_behind {front : Front} {level : Level} {limit : Nat}
    (fits : (level.behind front true).close.depth ≤ limit) : level.close.depth ≤ limit := by
  obtain ⟨last, others⟩ := (depth_alternation_le_iff (by simp [Level.behind])).mp fits
  rw [Level.behind, sequenceOf_shift, depth_shift] at last
  by_cases alone : level.branches = []
  · obtain ⟨branches, parts⟩ := level
    cases alone
    exact Nat.le_of_lt last
  · refine (depth_alternation_le_iff alone).mpr ⟨last, fun ast inside => ?_⟩
    rw [← depth_shift front.captures]
    exact others _ (List.mem_append_left _ (List.mem_map_of_mem inside))

/-! ## Compiling behind a branch -/

/-- A pattern that matches as a regular expression where that matches, and as another pattern
elsewhere, with later numbers for the groups of that. -/
def Prefers (regex : Regex) (groups : Nat) (pattern both : LocaleLint.Pattern) : Prop :=
  ∀ place, matchAt both.program place = (matchAt regex.program place).or
    ((matchAt pattern.program place).map (Match.shift groups))

/-- Behind a front, what has been read means the front or what it means alone. -/
theorem toRegex_behind {front : Front} {flags after : Flags} {regex own : Regex} {level : Level}
    (means : front.branch.toRegex flags = .ok (regex, flags))
    (meant : level.close.toRegex flags = .ok (own, after)) :
    (level.behind front true).close.toRegex flags =
      .ok (.alt regex (own.shift front.captures), after) := by
  obtain ⟨branches, some, close, close'⟩ := Reading.close_behind front level
  rw [close, toRegex_choice flags some] at meant
  obtain ⟨⟨regexes, after⟩, each, made⟩ := map_eq_ok.mp meant
  cases made
  have each' : Ast.toRegexes flags (front.branch :: branches.map (Ast.shift front.captures)) =
      .ok (regex :: regexes.map (Regex.shift front.captures), after) := by
    rw [← Ast.shifts_eq_map, Ast.toRegexes, means]
    simp only [bind, Except.bind, toRegexes_shifts, each]
    rfl
  have more : regexes ≠ [] := by
    rintro rfl
    cases branches with
    | nil => exact some rfl
    | cons branch branches =>
      obtain ⟨_, _, each⟩ := bind_eq_ok.mp each
      obtain ⟨_, _, made⟩ := bind_eq_ok.mp each
      cases made
  have alt : Regex.alts (regex :: regexes.map (Regex.shift front.captures)) =
      .alt regex ((Regex.alts regexes).shift front.captures) := by
    rw [Regex.shift_alts, Regex.alts]
    simpa using more
  rw [close', toRegex_choice flags (List.cons_ne_nil _ _), each']
  exact congrArg (fun regex => Except.ok (regex, after)) alt

/-- What means something behind a front means something alone. -/
theorem exists_toRegex_of_behind {front : Front} {flags after : Flags} {regex both : Regex}
    {level : Level} (means : front.branch.toRegex flags = .ok (regex, flags))
    (meant : (level.behind front true).close.toRegex flags = .ok (both, after)) :
    ∃ own, level.close.toRegex flags = .ok (own, after) := by
  obtain ⟨branches, some, close, close'⟩ := Reading.close_behind front level
  rw [close', toRegex_choice flags (List.cons_ne_nil _ _)] at meant
  obtain ⟨_, each, made⟩ := map_eq_ok.mp meant
  cases made
  rw [← Ast.shifts_eq_map, Ast.toRegexes, means] at each
  obtain ⟨_, others, made⟩ := bind_eq_ok.mp (show (Ast.toRegexes flags _ >>= _) = _ from each)
  cases made
  rw [toRegexes_shifts] at others
  obtain ⟨meaning, alone, rfl⟩ := map_eq_ok.mp others
  rw [close, toRegex_choice flags some, alone]
  exact ⟨_, rfl⟩

theorem groupNames_behind (front : Front) (level : Level) :
    (level.behind front true).close.groupNames = front.branch.groupNames ++
      level.close.groupNames.map fun name => (name.1, name.2 + front.captures) := by
  obtain ⟨branches, -, close, close'⟩ := Reading.close_behind front level
  rw [close', close, groupNames_choice, groupNames_choice, List.flatMap_cons, List.flatMap_map,
    List.map_flatMap]
  simp only [groupNames_shift]

section
variable (front : Front) {flags : Flags} {text whole : Text} {pattern both : LocaleLint.Pattern}
  {regex : Regex} (means : front.branch.toRegex flags = .ok (regex, flags))
  (read : (Reading.start whole).finish = ((Reading.start text).behind front).finish)
  (compiled : compile flags text = .ok pattern)

/-- No name has been noted before the first character. -/
theorem free_start (text : Text) (taken : List Text) :
    ¬ Taken (Reading.start text).names taken := nofun

include means read compiled in
/-- Behind a front a pattern is compiled to one that prefers the front. -/
theorem compile_behind (compiled' : compile flags whole = .ok both) :
    Prefers regex front.captures pattern both ∧
      both.groupCount = pattern.groupCount + front.captures ∧
      both.groupNames = front.branch.groupNames ++
        pattern.groupNames.map (fun name => (name.1, name.2 + front.captures)) ∧
      ∀ name ∈ pattern.groupNames, name.1 ∉ front.names := by
  obtain ⟨final, own, _, finished, closed, -, meant, rfl⟩ := compile_eq_ok.mp compiled
  obtain ⟨final', own', _, finished', -, -, meant', rfl⟩ := compile_eq_ok.mp compiled'
  have distinct := (Reading.numbered_finish (Reading.numbered_start _) finished').distinct
  rw [read] at finished'
  obtain ⟨_, again, rfl⟩ := Reading.exists_finish_of_behind (free_start text _) finished'
  cases finished.symm.trans again
  have bottom : (final.behind front).level = final.level.behind front true := by
    rw [Reading.behind, closed]
    rfl
  rw [bottom, toRegex_behind means meant] at meant'
  cases meant'
  refine ⟨fun place => ?_, rfl, ?_, fun name inside taken => ?_⟩
  · have unmoved : Match.shift 0 = id := funext Match.shift_zero
    have alt : Regex.alt regex (own.shift front.captures) =
        .alt (regex.shift 0) (own.shift front.captures) := by
      rw [Regex.shift_zero]
    dsimp only
    rw [alt, matchAt_alt, unmoved, Option.map_id_fun, id_eq]
  · dsimp only
    rw [bottom, groupNames_behind]
  · refine (List.nodup_append.mp distinct).2.2 name.1 taken name.1 ?_ rfl
    exact (names_of_finish finished name inside).2

include means read in
/-- What is compiled behind a front is compiled alone. -/
theorem exists_compile_of_behind (compiled' : compile flags whole = .ok both) :
    ∃ pattern, compile flags text = .ok pattern := by
  obtain ⟨_, _, _, finished, closed, fits, meant, rfl⟩ := compile_eq_ok.mp compiled'
  rw [read] at finished
  obtain ⟨final, ended, rfl⟩ := Reading.exists_finish_of_behind (free_start text _) finished
  have bottom : final.groups = [] := by
    rw [← List.isEmpty_iff, ← isEmpty_groupsBehind front, List.isEmpty_iff]
    exact closed
  have level : (final.behind front).level = final.level.behind front true := by
    rw [Reading.behind, bottom]
    rfl
  rw [level] at fits meant
  obtain ⟨own, meant⟩ := exists_toRegex_of_behind means meant
  exact ⟨_, compile_eq_ok.mpr ⟨final, own, _, ended, bottom, depth_le_of_behind fits, meant, rfl⟩⟩

include read compiled in
/-- Behind a front that takes the name of a group, a pattern is not compiled. -/
theorem compile_behind_of_taken (taken : Taken (pattern.groupNames.map Prod.fst) front.names) :
    compile flags whole = .error .groupNameDuplicate := by
  obtain ⟨final, own, _, finished, closed, -, -, rfl⟩ := compile_eq_ok.mp compiled
  have noted : Taken final.names front.names := by
    obtain ⟨name, inside, same⟩ := taken
    exact ⟨name, (mem_names_of_finish finished closed).mpr inside, same⟩
  have stopped : (Reading.start whole).finish = .error .groupNameDuplicate := by
    rw [read, Reading.finish_behind (free_start text _) finished, Reading.putBehind, if_pos noted]
  unfold compile Ast.ofText
  rw [show Reading.run (whole.length + 1) (.start whole) = _ from stopped]
  rfl

include means read compiled in
/-- Behind a front that takes no name of its groups, a pattern that is already a choice is
compiled. -/
theorem exists_compile_behind (shallow : front.branch.depth < nestingLimit)
    (several : ∀ final, (Reading.start text).finish = .ok final → final.groups = [] →
      final.level.branches ≠ [])
    (free : ¬ Taken (pattern.groupNames.map Prod.fst) front.names) :
    ∃ both, compile flags whole = .ok both := by
  obtain ⟨final, own, after, finished, closed, fits, meant, rfl⟩ := compile_eq_ok.mp compiled
  have unnoted : ¬ Taken final.names front.names := by
    rintro ⟨name, inside, same⟩
    exact free ⟨name, (mem_names_of_finish finished closed).mp inside, same⟩
  have placed : (Reading.start whole).finish = .ok (final.behind front) := by
    rw [read, Reading.finish_behind (free_start text _) finished, Reading.putBehind,
      if_neg unnoted]
  have bottom : (final.behind front).level = final.level.behind front true := by
    rw [Reading.behind, closed]
    rfl
  refine ⟨_, compile_eq_ok.mpr ⟨_, .alt regex (own.shift front.captures), after, placed, ?_, ?_, ?_,
    rfl⟩⟩
  · rw [Reading.behind, closed]
    rfl
  · rw [bottom]
    exact depth_behind_le shallow (several final finished closed) fits
  · rw [bottom]
    exact toRegex_behind means meant

end

/-! ## Scanning with a preference -/

/-- Whether there is a match at each position from one to another. -/
def Unbroken (found : List Match) (first last : Nat) : Prop :=
  ∀ position, first ≤ position → position ≤ last →
    ∃ m ∈ found, m.start ≤ position ∧ position < m.stop

theorem Unbroken.trans {found : List Match} {first middle last : Nat}
    (unbroken : Unbroken found first middle) (onward : Unbroken found middle last) :
    Unbroken found first last := by
  intro position low high
  rcases Nat.le_total position middle with here | beyond
  · exact unbroken position low here
  · exact onward position beyond high

theorem unbroken_of_mem {found : List Match} {m : Match} (inside : m ∈ found) {last : Nat}
    (reaches : last < m.stop) : Unbroken found m.start last :=
  fun _ low high => ⟨m, inside, low, Nat.lt_of_le_of_lt high reaches⟩

section
variable {regex : Regex} {groups : Nat} {pattern both : LocaleLint.Pattern} {text : Text}
  {m other : Match}

/-- Whether a match in a text is one of a regular expression. -/
private def IsOf (regex : Regex) (text : Text) (m : Match) : Prop :=
  matchAt regex.program ((Place.start text).advance m.start) = some m

variable (prefers : Prefers regex groups pattern both)
include prefers

private theorem isOf_or (found : other ∈ both.matchesIn text) : IsOf regex text other ∨
    ∃ own, matchAt pattern.program ((Place.start text).advance other.start) = some own ∧
      other = own.shift groups := by
  have here := (matchAt_start found).2
  rw [prefers, Option.or_eq_some_iff] at here
  rcases here with preferred | ⟨-, here⟩
  · exact .inl preferred
  · obtain ⟨own, found, same⟩ := Option.map_eq_some_iff.mp here
    exact .inr ⟨own, found, same.symm⟩

variable (solid : ∀ place m, matchAt regex.program place = some m → m.start < m.stop)
include solid

/-- Where a pattern matches, a scan with a preference has that match or another one over its start,
which is a preferred one or begins earlier. -/
private theorem shift_mem_or_covered (early : m.start ≤ text.length)
    (here : matchAt pattern.program ((Place.start text).advance m.start) = some m)
    (filled : m.start < m.stop) : m.shift groups ∈ both.matchesIn text ∨
      ∃ other ∈ both.matchesIn text, other.start ≤ m.start ∧ m.start < other.stop ∧
        (IsOf regex text other ∨ other.start < m.start ∧
          ∃ own, matchAt pattern.program ((Place.start text).advance other.start) = some own ∧
            other = own.shift groups) := by
  have there := prefers ((Place.start text).advance m.start)
  rw [here, Option.map_some] at there
  cases ahead : matchAt regex.program ((Place.start text).advance m.start) with
  | none =>
    rw [ahead, Option.none_or] at there
    refine (matchesIn_covers early there).imp_right ?_
    rintro ⟨other, found, before, -, reach⟩
    have reaches : m.start < other.stop := reach.resolve_left (Nat.ne_of_lt filled)
    exact ⟨other, found, Nat.le_of_lt before, reaches,
      (isOf_or prefers found).imp_right fun own => ⟨before, own⟩⟩
  | some taken =>
    rw [ahead, Option.some_or] at there
    have filled' := solid _ _ ahead
    have start : taken.start = m.start :=
      (matchAt_bounds ahead).1.trans (matchAt_bounds here).1.symm
    right
    rcases matchesIn_covers early there with found | ⟨other, found, before, -, reach⟩
    · refine ⟨taken, found, by omega, by omega, .inl ?_⟩
      rw [IsOf, start]
      exact ahead
    · have reaches := reach.resolve_left (Nat.ne_of_lt filled')
      rw [start] at before reaches
      exact ⟨other, found, Nat.le_of_lt before, reaches,
        (isOf_or prefers found).imp_right fun own => ⟨before, own⟩⟩

/-- A match of a scan is also found with a preference, unless a preferred match overlaps a match of
the scan from which matches of the two scans reach without a gap. -/
theorem mem_matchesIn_or_overlapped (inside : m ∈ pattern.matchesIn text)
    (filled : m.start < m.stop) : m.shift groups ∈ both.matchesIn text ∨
      ∃ taken ∈ both.matchesIn text,
        matchAt regex.program ((Place.start text).advance taken.start) = some taken ∧
        ∃ lost ∈ pattern.matchesIn text, lost.start < taken.stop ∧ taken.start < lost.stop ∧
          lost.start ≤ m.start ∧
          Unbroken (pattern.matchesIn text ++ both.matchesIn text) lost.start m.start := by
  induction start : m.start using Nat.strong_induction_on generalizing m with
  | _ n ih =>
    subst start
    obtain ⟨early, here⟩ := matchAt_start inside
    rcases shift_mem_or_covered prefers solid early here filled with
      found | ⟨other, found, before, reaches, preferred | ⟨earlier, own, there, rfl⟩⟩
    · exact .inl found
    · exact .inr ⟨other, found, preferred, m, inside, reaches, by omega, Nat.le_refl _,
        unbroken_of_mem (List.mem_append_left _ inside) filled⟩
    · -- The match that hides this one is not in the first scan, so that has one that hides it too.
      change own.start < m.start at earlier
      change m.start < own.stop at reaches
      have inText : own.start ≤ text.length := by omega
      rcases matchesIn_covers inText there with found' | ⟨cover, found', before', -, reach⟩
      · rcases apart_of_mem found' inside with same | apart
        · rw [same] at earlier
          exact absurd earlier (Nat.lt_irrefl _)
        · omega
      · have longer : own.start < cover.stop := by omega
        rcases ih cover.start (by omega) found' (by omega) rfl with kept | overlapped
        · rcases apart_of_mem kept found with same | apart
          · have start := congrArg Match.start same
            change cover.start = own.start at start
            omega
          · change cover.stop ≤ own.start ∨ own.stop ≤ cover.start at apart
            omega
        · obtain ⟨taken, member, preferred, lost, member', first, last, sooner, unbroken⟩ :=
            overlapped
          have onward := unbroken_of_mem (List.mem_append_left (both.matchesIn text) found') longer
          have beyond : Unbroken _ own.start m.start :=
            unbroken_of_mem (List.mem_append_right (pattern.matchesIn text) found) reaches
          exact .inr ⟨taken, member, preferred, lost, member', first, last, by omega,
            unbroken.trans (onward.trans beyond)⟩

end

end LocaleLint.Pattern
