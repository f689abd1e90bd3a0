import Mathlib
import LocaleLint.Proofs.Pattern.Groups
import LocaleLint.Proofs.Pattern.Verbosity

/-!
# Patterns inside patterns

A pattern in a group of another one is read as it is alone, except that its groups are numbered
after those before it. The exception is a pattern that turns verbose mode on and ends in a comment,
which hides the parenthesis behind it.
-/

namespace LocaleLint.Pattern

/-! ## Later numbers -/

/-- A kind of group with a later number. -/
def GroupKind.shift (groups : Nat) : GroupKind → GroupKind
  | .capture index name => .capture (index + groups) name
  | .plain flags => .plain flags

mutual

/-- A pattern with later numbers for its groups. -/
def Ast.shift (groups : Nat) : Ast → Ast
  | .repetition least most greedy body => .repetition least most greedy (body.shift groups)
  | .group kind body => .group (kind.shift groups) (body.shift groups)
  | .alternation branches => .alternation (Ast.shifts groups branches)
  | .sequence parts => .sequence (Ast.shifts groups parts)
  | ast => ast

/-- Patterns with later numbers for their groups. -/
def Ast.shifts (groups : Nat) : List Ast → List Ast
  | [] => []
  | ast :: rest => ast.shift groups :: Ast.shifts groups rest

end

theorem Ast.shifts_eq_map (groups : Nat) (asts : List Ast) :
    Ast.shifts groups asts = asts.map (Ast.shift groups) := by
  induction asts with
  | nil => rfl
  | cons ast rest ih => rw [Ast.shifts, ih, List.map_cons]

theorem isRepeatable_shift (groups : Nat) (ast : Ast) :
    (ast.shift groups).isRepeatable = ast.isRepeatable := by
  cases ast <;> rfl

/-- A level with later numbers for its groups. -/
def Level.shift (groups : Nat) (level : Level) : Level :=
  ⟨level.branches.map (Ast.shift groups), level.parts.map (Ast.shift groups)⟩

/-- An open group with later numbers. -/
def OpenGroup.shift (groups : Nat) (group : OpenGroup) : OpenGroup :=
  ⟨group.kind.shift groups, group.outer.shift groups, group.verbose⟩

theorem sequenceOf_shift (groups : Nat) (parts : List Ast) :
    sequenceOf (parts.map (Ast.shift groups)) = (sequenceOf parts).shift groups := by
  match parts with
  | [] => rfl
  | [_] => rfl
  | a :: b :: rest =>
    simp only [sequenceOf, List.map_cons, Ast.shift, Ast.shifts_eq_map, List.map_reverse]

theorem close_shift (groups : Nat) (level : Level) :
    (level.shift groups).close = level.close.shift groups := by
  obtain ⟨branches, parts⟩ := level
  cases branches with
  | nil => exact sequenceOf_shift groups parts
  | cons branch branches =>
    simp only [Level.close, Level.shift, List.map_cons, sequenceOf_shift, Ast.shift,
      Ast.shifts_eq_map, List.map_reverse]

/-! ## Readings in place -/

/-- What surrounds a pattern in another one: the groups that are open there, how many there are
before it, and their names. -/
structure Surrounding where
  groups : List OpenGroup
  captures : Nat
  names : List Text

namespace Reading

/-- A reading inside another one, where some text stands behind. -/
def within (around : Surrounding) (behind : Text) (reading : Reading) : Reading where
  level := reading.level.shift around.captures
  groups := reading.groups.map (OpenGroup.shift around.captures) ++ around.groups
  verbose := reading.verbose
  captures := reading.captures + around.captures
  names := around.names ++ reading.names
  rest := reading.rest ++ behind

/-- A step of a reading leads to the same inside another one, unless a comment at the end of the
text hides the parenthesis there, or a group is open at the end of the text. -/
def Carries (reading : Reading) (c : Char) (rest : Text) (next : Reading) : Prop :=
  next.rest.length ≤ rest.length ∧
    ((∀ around text behind found,
        (reading.within around text).step c (rest ++ ')' :: behind) = .ok found →
        found = next.within around (')' :: behind)) ∨
      (next.rest = [] ∧ (next.groups ≠ [] ∨ reading.verbose = true ∧ ∀ around text found,
        (reading.within around text).step c (rest ++ [')']) = .ok found →
        found = next.within around [])))

theorem carries_of_reads {α : Type} {reader : Text → Except Fault (α × Text)}
    {reading next : Reading} {c : Char} {rest : Text} {value : α}
    (reads : Reads reading.verbose reader rest value next.rest)
    (same : ∀ around text behind left, reader behind = .ok (value, left) →
      (reading.within around text).step c behind =
        .ok { next.within around [] with rest := left }) :
    reading.Carries c rest next := by
  refine ⟨reads.1, ?_⟩
  rcases reads.2 with goes | ⟨mode, none, goes⟩
  · refine .inl fun around text behind found stepped => ?_
    rw [same around text _ _ (goes behind)] at stepped
    cases stepped
    rfl
  · refine .inr ⟨none, .inr ⟨mode, fun around text found stepped => ?_⟩⟩
    rw [same around text _ _ goes] at stepped
    cases stepped
    simp only [within, none, List.nil_append]

private theorem carries_at_once {reading next : Reading} {c : Char} {rest : Text}
    (left : next.rest = rest)
    (same : ∀ around text behind, (reading.within around text).step c behind =
      .ok { next.within around [] with rest := behind }) : reading.Carries c rest next := by
  have reads : Reads reading.verbose (fun text => .ok ((), text)) rest () next.rest := by
    rw [left]
    exact .refl
  refine carries_of_reads reads fun around text behind left read => ?_
  cases read
  exact same around text behind

theorem takePart_within (around : Surrounding) (text : Text) (reading : Reading) :
    (reading.within around text).takePart =
      reading.takePart.map fun (part, parts) =>
        (part.shift around.captures, parts.map (Ast.shift around.captures)) := by
  obtain ⟨⟨branches, parts⟩, groups, verbose, captures, names, rest⟩ := reading
  cases parts with
  | nil => rfl
  | cons part parts =>
    simp only [takePart, within, Level.shift, List.map_cons, isRepeatable_shift]
    split <;> rfl

private theorem carries_openGroup {reading next : Reading} {rest : Text}
    (opened : reading.openGroup rest = .ok next) : reading.Carries '(' rest next := by
  obtain ⟨⟨opener, left⟩, read, made⟩ := bind_eq_ok.mp opened
  obtain ⟨short, -, onward⟩ := readOpener_append read
  have left_eq : next.rest = left := by
    cases opener <;> cases made <;> rfl
  refine ⟨by rw [left_eq]; exact short, ?_⟩
  rcases onward with ⟨none, rfl⟩ | onward
  · cases made
    exact .inr ⟨none, .inl (List.cons_ne_nil _ _)⟩
  · refine .inl fun around text behind found stepped => ?_
    obtain ⟨⟨opener', left'⟩, read', made'⟩ := bind_eq_ok.mp stepped
    cases onward _ _ _ read'
    cases opener with
    | flags changes =>
      cases made
      cases made'
      rfl
    | plain flags =>
      cases made
      cases made'
      rfl
    | capture name =>
      cases made
      cases made'
      simp only [enter, within, Level.shift, OpenGroup.shift, GroupKind.shift, List.map_cons,
        List.map_nil, List.cons_append, List.append_assoc, Nat.add_right_comm]

private theorem carries_closeGroup {reading next : Reading} {rest : Text}
    (closed : reading.closeGroup rest = .ok next) : reading.Carries ')' rest next := by
  unfold closeGroup at closed
  split at closed
  · cases closed
  · rename_i group groups opened
    cases closed
    refine carries_at_once rfl fun around text behind => ?_
    simp only [step, closeGroup, within, opened, List.map_cons, List.cons_append, close_shift]
    rfl

private theorem carries_push {α : Type} (reader : Text → Except Fault (α × Text)) (part : α → Ast)
    {reading : Reading} {c : Char} {rest left : Text} {value : α}
    (pushes : ∀ (other : Reading) text, other.verbose = reading.verbose →
      other.step c text = (reader text).map fun found => other.push (part found.1) found.2)
    (ungrouped : ∀ groups, (part value).shift groups = part value)
    (reads : Reads reading.verbose reader rest value left) :
    reading.Carries c rest (reading.push (part value) left) := by
  refine carries_of_reads reads fun around text behind left' read => ?_
  rw [pushes (reading.within around text) behind rfl, read]
  simp only [Except.map, push, within, Level.push, Level.shift, List.map_cons, ungrouped]

private theorem carries_character {part : Ast} {reading : Reading} {c : Char} {rest : Text}
    (pushes : ∀ (other : Reading) text, other.step c text = .ok (other.push part text))
    (ungrouped : ∀ groups, part.shift groups = part) :
    reading.Carries c rest (reading.push part rest) := by
  refine carries_at_once rfl fun around text behind => ?_
  rw [pushes]
  simp only [push, within, Level.push, Level.shift, List.map_cons, ungrouped]

/-- A reading whose last part is repeated. -/
def repeated (reading : Reading) (part : Ast) (parts : List Ast)
    (count : Nat × Option Nat × Bool) (rest : Text) : Reading :=
  { reading with
    level := { reading.level with
      parts := .repetition count.1 count.2.1 count.2.2 part :: parts }
    rest }

private theorem carries_repeated {reader : Text → Except Fault ((Nat × Option Nat × Bool) × Text)}
    {reading : Reading} {c : Char} {rest left : Text} {count : Nat × Option Nat × Bool} {part : Ast}
    {parts : List Ast}
    (repeats : ∀ (other : Reading) text, other.verbose = reading.verbose →
      other.step c text = other.takePart.bind fun last =>
        (reader text).map fun found => other.repeated last.1 last.2 found.1 found.2)
    (taken : reading.takePart = .ok (part, parts))
    (reads : Reads reading.verbose reader rest count left) :
    reading.Carries c rest (reading.repeated part parts count left) := by
  refine carries_of_reads reads fun around text behind left' read => ?_
  rw [repeats (reading.within around text) behind rfl, read, takePart_within, taken]
  simp only [Except.map, Except.bind, repeated, within, Level.shift, List.map_cons, Ast.shift]

theorem repeatPart_eq (least : Nat) (most : Option Nat) (reading : Reading) (text : Text) :
    reading.repeatPart least most text = reading.takePart.bind fun last =>
      (Except.ok ((least, most, (greedBehind text).1), (greedBehind text).2)).map
        fun found => reading.repeated last.1 last.2 found.1 found.2 := by
  unfold repeatPart
  cases reading.takePart with
  | error fault => rfl
  | ok last =>
    cases text with
    | nil => rfl
    | cons c text =>
      by_cases question : c = '?'
      · subst question
        rfl
      · simp [greedBehind, question, Except.bind, Except.map, bind, pure, Except.pure, repeated]

theorem repeatCounted_eq (reading : Reading) (text : Text) :
    reading.repeatCounted text = reading.takePart.bind fun last =>
      (readCounted reading.verbose text).map
        fun found => reading.repeated last.1 last.2 found.1 found.2 := by
  unfold repeatCounted
  cases reading.takePart with
  | error fault => rfl
  | ok last => cases readCounted reading.verbose text <;> rfl

private theorem carries_repeatPart {least : Nat} {most : Option Nat} {reading next : Reading}
    {c : Char} {rest : Text}
    (repeats : ∀ (reading : Reading) text, reading.step c text = reading.repeatPart least most text)
    (stepped : reading.repeatPart least most rest = .ok next) : reading.Carries c rest next := by
  rw [repeatPart_eq] at stepped
  obtain ⟨⟨part, parts⟩, taken, made⟩ := bind_eq_ok.mp stepped
  cases made
  exact carries_repeated (fun other text _ => (repeats other text).trans (repeatPart_eq ..)) taken
    (reads_greedBehind reading.verbose least most rest)

/-- A step leads to the same inside another reading. -/
theorem carries_step {reading next : Reading} {c : Char} {rest : Text}
    (stepped : reading.step c rest = .ok next) : reading.Carries c rest next := by
  unfold step at stepped
  split at stepped
  · exact carries_openGroup stepped
  · exact carries_closeGroup stepped
  · cases stepped
    refine carries_at_once rfl fun around text behind => ?_
    simp only [step, branch, within, Level.shift, List.map_cons, List.map_nil, sequenceOf_shift]
  · obtain ⟨⟨set, left⟩, read, made⟩ := map_eq_ok.mp stepped
    obtain ⟨short, ⟨negated, class_, rfl⟩, onward⟩ := readClass_append read
    cases made
    exact carries_push (readClass reading.verbose) id
      (fun other text same => by rw [← same]; rfl) (fun _ => rfl)
      ⟨Nat.le_of_lt short, .inl onward⟩
  · exact carries_repeatPart (fun _ _ => rfl) stepped
  · exact carries_repeatPart (fun _ _ => rfl) stepped
  · exact carries_repeatPart (fun _ _ => rfl) stepped
  · rw [repeatCounted_eq] at stepped
    obtain ⟨⟨part, parts⟩, taken, found⟩ := bind_eq_ok.mp stepped
    obtain ⟨⟨count, left⟩, read, made⟩ := map_eq_ok.mp found
    cases made
    exact carries_repeated
      (fun other text same => by rw [← same]; exact repeatCounted_eq other text) taken
      (reads_readCounted read)
  · obtain ⟨⟨primitive, left⟩, read, made⟩ := map_eq_ok.mp stepped
    cases made
    exact carries_push (readEscape reading.verbose) ofPrimitive
      (fun other text same => by rw [← same]; rfl) (fun _ => by cases primitive <;> rfl)
      (reads_readEscape read)
  · cases stepped
    exact carries_character (fun _ _ => rfl) fun _ => rfl
  · cases stepped
    exact carries_character (fun _ _ => rfl) fun _ => rfl
  · cases stepped
    exact carries_character (fun _ _ => rfl) fun _ => rfl
  · cases stepped
    refine carries_character (fun other text => ?_) fun _ => rfl
    rw [step] <;> assumption

/-! ## Reading to the end -/

/-- Reads to the end of the text. -/
def finish (reading : Reading) : Except Fault Reading := run (reading.rest.length + 1) reading

private theorem run_eq_run {fuel fuel' : Nat} {reading : Reading}
    (enough : reading.rest.length < fuel) (enough' : reading.rest.length < fuel') :
    run fuel reading = run fuel' reading := by
  induction fuel generalizing fuel' reading with
  | zero => omega
  | succ fuel ih =>
    cases fuel' with
    | zero => omega
    | succ fuel' =>
      have shorter := length_skip_le reading.verbose reading.rest
      rw [run, run]
      cases skipped : skip reading.verbose reading.rest with
      | nil => rfl
      | cons c rest =>
        rw [skipped, List.length_cons] at shorter
        dsimp only
        cases stepped : reading.step c rest with
        | error fault => rfl
        | ok next =>
          have less := (carries_step stepped).1
          exact ih (by omega) (by omega)

theorem run_eq_finish {fuel : Nat} {reading : Reading} (enough : reading.rest.length < fuel) :
    run fuel reading = reading.finish :=
  run_eq_run enough (Nat.lt_succ_self _)

theorem finish_end {reading : Reading} (none : skip reading.verbose reading.rest = []) :
    reading.finish = .ok reading := by
  rw [finish, run, none]

theorem finish_step (reading : Reading) {c : Char} {rest : Text}
    (some : skip reading.verbose reading.rest = c :: rest) :
    reading.finish = (reading.step c rest).bind finish := by
  have shorter := length_skip_le reading.verbose reading.rest
  rw [some, List.length_cons] at shorter
  rw [finish, run, some]
  dsimp only
  cases stepped : reading.step c rest with
  | error fault => rfl
  | ok next =>
    have less := (carries_step stepped).1
    exact run_eq_finish (by omega)

/-- What holds at the end of the text, and of a reading if it holds after its next step, holds of
every reading. -/
@[elab_as_elim]
theorem stepwise {motive : Reading → Prop}
    (ended : ∀ reading, skip reading.verbose reading.rest = [] → motive reading)
    (going : ∀ reading c rest, skip reading.verbose reading.rest = c :: rest →
      (∀ next, reading.step c rest = .ok next → motive next) → motive reading)
    (reading : Reading) : motive reading := by
  induction length : reading.rest.length using Nat.strong_induction_on generalizing reading with
  | _ n ih =>
    cases skipped : skip reading.verbose reading.rest with
    | nil => exact ended reading skipped
    | cons c rest =>
      have shorter := length_skip_le reading.verbose reading.rest
      rw [skipped, List.length_cons] at shorter
      refine going reading c rest skipped fun next stepped => ?_
      have less := (carries_step stepped).1
      exact ih next.rest.length (by omega) next rfl

/-- What every step preserves is preserved to the end of the text. -/
theorem finish_preserves {motive : Reading → Prop}
    (preserved : ∀ reading c rest next, reading.step c rest = .ok next →
      motive reading → motive next)
    {reading final : Reading} (holds : motive reading) (finished : reading.finish = .ok final) :
    motive final := by
  induction reading using stepwise with
  | ended reading skipped =>
    rw [finish_end skipped] at finished
    cases finished
    exact holds
  | going reading c rest skipped ih =>
    rw [finish_step _ skipped] at finished
    obtain ⟨next, stepped, finished⟩ := bind_eq_ok.mp finished
    exact ih next stepped (preserved reading c rest next stepped holds) finished

theorem solid_parenthesis (verbose : Bool) : Solid verbose ')' := fun _ => by decide

/-- What is read inside another pattern is what is read alone, unless verbose mode is turned on and a
comment hides the parenthesis behind it, so that the group around it stays open. -/
theorem finish_within {reading final : Reading} (traced : reading.Traced)
    (finished : reading.finish = .ok final) (closed : final.groups = []) :
    (∀ around behind found, (reading.within around (')' :: behind)).finish = .ok found →
      (({ final with rest := [] }).within around (')' :: behind)).finish = .ok found) ∨
    (.verbose, true) ∈ final.level.close.changes ∧
      ∀ around found, around.groups ≠ [] → (reading.within around [')']).finish = .ok found →
        found.groups ≠ [] := by
  induction reading using stepwise with
  | ended reading skipped =>
    rw [finish_end skipped] at finished
    cases finished
    rcases skip_end skipped with seen | hidden
    · refine .inl fun around behind found finished => ?_
      rw [finish_step _ (seen behind)] at finished
      rw [finish_step _ ((solid_parenthesis _).skip behind)]
      exact finished
    · refine .inr ⟨(mem_changes_of_closed closed).mp (traced (.inl hidden.1)),
        fun around found opened finished => ?_⟩
      rw [finish_end hidden.2] at finished
      cases finished
      exact List.append_ne_nil_of_right_ne_nil _ opened
  | going reading c rest skipped ih =>
    have onward (behind : Text) :
        skip reading.verbose (reading.rest ++ behind) = c :: (rest ++ behind) := by
      rw [skip_append (by rw [skipped]; simp), skipped, List.cons_append]
    have goes (around : Surrounding) (behind : Text) :=
      finish_step (reading.within around behind) (onward behind)
    rw [finish_step _ skipped] at finished
    obtain ⟨next, stepped, finished⟩ := bind_eq_ok.mp finished
    have grows := grows_step stepped
    obtain ⟨-, same | ⟨none, same⟩⟩ := carries_step stepped
    · rcases ih next stepped (grows.traced traced) finished with inside | ⟨turned, hidden⟩
      · refine .inl fun around behind found finished' => ?_
        rw [goes] at finished'
        obtain ⟨next', stepped', finished'⟩ := bind_eq_ok.mp finished'
        rw [same around _ behind next' stepped'] at finished'
        exact inside around behind found finished'
      · refine .inr ⟨turned, fun around found opened finished' => ?_⟩
        rw [goes] at finished'
        obtain ⟨next', stepped', finished'⟩ := bind_eq_ok.mp finished'
        rw [same around _ [] next' stepped'] at finished'
        exact hidden around found opened finished'
    · have last : skip next.verbose next.rest = [] := by rw [none, skip_nil]
      rw [finish_end last] at finished
      cases finished
      obtain ⟨mode, same⟩ := same.resolve_left fun some => some closed
      refine .inr ⟨(mem_changes_of_closed closed).mp (grows.1 (traced (.inl mode))),
        fun around found opened finished' => ?_⟩
      rw [goes] at finished'
      obtain ⟨next', stepped', finished'⟩ := bind_eq_ok.mp finished'
      rw [same around _ next' stepped', finish_end (by simp [within, none])] at finished'
      cases finished'
      exact List.append_ne_nil_of_right_ne_nil _ opened

/-! ## Groups around patterns -/

/-- A reading in which a group begins goes on inside the group. -/
theorem finish_open (level : Level) (captures : Nat) (names : List Text) (source behind : Text) :
    finish ⟨level, [], false, captures, names, "(?:".toList ++ source ++ behind⟩ =
      ((start source).within ⟨[⟨.plain [], level, false⟩], captures, names⟩ behind).finish := by
  have some : skip false ("(?:".toList ++ source ++ behind) =
      '(' :: ("?:".toList ++ source ++ behind) := rfl
  have opened : Reading.step ⟨level, [], false, captures, names, "(?:".toList ++ source ++ behind⟩
      '(' ("?:".toList ++ source ++ behind) =
        .ok ((start source).within ⟨[⟨.plain [], level, false⟩], captures, names⟩ behind) := by
    simp [step, openGroup, readOpener, skip, readQuestion, readFlags, bind, Except.bind, pure,
      Except.pure, enter, verboseAfter, start, within, Level.shift]
  rw [finish_step _ some, opened]
  rfl

/-- A reading in which a group ends goes on behind the group. -/
theorem finish_close {final : Reading} (closed : final.groups = []) (level : Level)
    (captures : Nat) (names : List Text) (behind : Text) :
    (({ final with rest := [] }).within ⟨[⟨.plain [], level, false⟩], captures, names⟩
        (')' :: behind)).finish =
      finish ⟨level.push (.group (.plain []) (final.level.close.shift captures)), [], false,
        final.captures + captures, names ++ final.names, behind⟩ := by
  rw [finish_step _ ((solid_parenthesis _).skip behind)]
  simp only [step, closeGroup, within, closed, List.map_nil, List.nil_append, close_shift]
  rfl

/-- A text that is a pattern alone and in every group, and how its reading ends. -/
structure Closes (source : Text) (final : Reading) : Prop where
  alone : (start source).finish = .ok final
  closed : final.groups = []
  inside : ∀ around behind found, ((start source).within around (')' :: behind)).finish = .ok found →
    (({ final with rest := [] }).within around (')' :: behind)).finish = .ok found

/-- A pattern that is one in a group, too, is one in every group. -/
theorem Closes.of_grouped {source : Text} {final found : Reading}
    (alone : (start source).finish = .ok final) (closed : final.groups = [])
    (grouped : (start ("(?:".toList ++ source ++ [')'])).finish = .ok found)
    (closed' : found.groups = []) : Closes source final := by
  rcases finish_within (traced_start source) alone closed with inside | ⟨-, hidden⟩
  · exact ⟨alone, closed, inside⟩
  · rw [start, finish_open] at grouped
    exact absurd closed' (hidden _ found (List.cons_ne_nil _ _) grouped)

/-- A pattern that never turns verbose mode on is one in every group. -/
theorem Closes.of_plain {source : Text} {final : Reading}
    (alone : (start source).finish = .ok final) (closed : final.groups = [])
    (plain : (.verbose, true) ∉ final.level.close.changes) : Closes source final := by
  rcases finish_within (traced_start source) alone closed with inside | ⟨turned, -⟩
  · exact ⟨alone, closed, inside⟩
  · exact absurd turned plain

/-- A pattern in a group of another one is read as it is alone. -/
theorem finish_group {source : Text} {final found : Reading} (closes : Closes source final)
    {level : Level} {captures : Nat} {names : List Text} {behind : Text}
    (finished : finish ⟨level, [], false, captures, names,
      "(?:".toList ++ source ++ ')' :: behind⟩ = .ok found) :
    finish ⟨level.push (.group (.plain []) (final.level.close.shift captures)), [], false,
      final.captures + captures, names ++ final.names, behind⟩ = .ok found := by
  rw [finish_open] at finished
  rw [← finish_close closes.closed]
  exact closes.inside _ behind found finished

/-- Patterns in groups one after another, numbered from a number of groups on. -/
def gather : (captures : Nat) → List Reading → List Ast
  | _, [] => []
  | captures, final :: rest =>
    .group (.plain []) (final.level.close.shift captures) ::
      gather (final.captures + captures) rest

/-- A choice between patterns, if there are several. -/
def choice : List Ast → Ast
  | [ast] => ast
  | asts => .alternation asts

private theorem choice_of_length {asts : List Ast} (several : asts.length ≠ 1) :
    choice asts = .alternation asts := by
  unfold choice
  split
  · exact absurd rfl several
  · rfl

theorem close_eq (level : Level) :
    level.close = choice (sequenceOf level.parts :: level.branches).reverse := by
  obtain ⟨branches, parts⟩ := level
  cases branches with
  | nil => rfl
  | cons branch branches =>
    rw [choice_of_length (by simp)]
    rfl

/-- A choice between patterns in groups is read as the choice between what is read alone. -/
theorem finish_join {sources : List Text} {finals : List Reading}
    (each : List.Forall₂ Closes sources finals) (some : sources ≠ []) {branches : List Ast}
    {captures : Nat} {names : List Text} {found : Reading}
    (finished : finish ⟨⟨branches, []⟩, [], false, captures, names,
      Text.joinWith ['|'] (sources.map fun source => "(?:".toList ++ source ++ [')'])⟩ =
        .ok found) :
    found.level.close = choice (branches.reverse ++ gather captures finals) ∧
      found.captures = (finals.map Reading.captures).sum + captures ∧
      found.names = names ++ finals.flatMap Reading.names := by
  induction each generalizing branches captures names with
  | nil => exact absurd rfl some
  | @cons source final sources finals closes others ih =>
    have joined : Text.joinWith ['|']
        ((source :: sources).map fun source => "(?:".toList ++ source ++ [')']) =
        "(?:".toList ++ source ++ ')' :: (if sources = [] then [] else '|' ::
          Text.joinWith ['|'] (sources.map fun source => "(?:".toList ++ source ++ [')'])) := by
      cases sources with
      | nil => rfl
      | cons next sources =>
        rw [if_neg (List.cons_ne_nil _ _)]
        simp [Text.joinWith]
    rw [joined] at finished
    have behind := finish_group closes finished
    cases others with
    | nil =>
      rw [if_pos rfl, finish_end rfl] at behind
      cases behind
      refine ⟨?_, by simp, by simp⟩
      rw [close_eq]
      simp [Level.push, sequenceOf, gather]
    | cons later others =>
      rw [if_neg (List.cons_ne_nil _ _), finish_step _ (c := '|') rfl] at behind
      have onward : finish ⟨⟨.group (.plain []) (final.level.close.shift captures) :: branches, []⟩,
          [], false, final.captures + captures, names ++ final.names,
          Text.joinWith ['|'] _⟩ = .ok found := behind
      obtain ⟨close, captures', names'⟩ := ih (List.cons_ne_nil _ _) onward
      refine ⟨?_, ?_, ?_⟩
      · rw [close, List.reverse_cons, List.append_assoc]
        rfl
      · rw [captures', List.map_cons, List.map_cons, List.map_cons, List.sum_cons, List.sum_cons,
          List.sum_cons]
        omega
      · rw [names', List.flatMap_cons (x := final), List.append_assoc]

end Reading

end LocaleLint.Pattern
