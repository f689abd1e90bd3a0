import Mathlib
import LocaleLint.Proofs.Pattern.Brackets

/-!
# Where verbose mode comes from

Verbose mode is on only behind a change of flags that turns it on. Such a change stays in the syntax
that is read, so a text whose syntax has none is read without verbose mode throughout.
-/

namespace LocaleLint.Pattern

/-- What is gathered from a choice or a sequence is what is gathered from its parts. -/
structure Gathers {α : Type} (f : Ast → List α) : Prop where
  empty : f .empty = []
  alternation : ∀ branches, f (.alternation branches) = branches.flatMap f
  sequence : ∀ parts, f (.sequence parts) = parts.flatMap f

section
variable {α : Type} {f : Ast → List α} (gathers : Gathers f) {x : α}
include gathers

theorem Gathers.mem_sequenceOf {parts : List Ast} :
    x ∈ f (sequenceOf parts) ↔ x ∈ parts.flatMap f := by
  rcases parts with _ | ⟨first, _ | ⟨second, rest⟩⟩
  · rw [sequenceOf, gathers.empty, List.flatMap_nil]
  · rw [sequenceOf, List.flatMap_singleton]
  · rw [sequenceOf, gathers.sequence]
    · simp only [List.mem_flatMap, List.mem_reverse]
    · simp
    · simp

theorem Gathers.mem_close {level : Level} :
    x ∈ f level.close ↔ x ∈ level.parts.flatMap f ++ level.branches.flatMap f := by
  obtain ⟨branches, parts⟩ := level
  cases branches with
  | nil => rw [List.flatMap_nil, List.append_nil, Level.close, gathers.mem_sequenceOf]
  | cons branch branches =>
    have last : x ∈ f (sequenceOf parts) ↔ x ∈ parts.flatMap f := gathers.mem_sequenceOf
    rw [Level.close, gathers.alternation, List.mem_append, ← last]
    simp only [List.mem_flatMap, List.mem_reverse, List.mem_cons, exists_eq_or_imp]

end

/-- What can be repeated is the last part. -/
theorem Reading.parts_of_takePart {reading : Reading} {part : Ast} {parts : List Ast}
    (taken : reading.takePart = .ok (part, parts)) : reading.level.parts = part :: parts := by
  unfold takePart at taken
  split at taken
  · cases taken
  · rename_i first others same
    split at taken <;> cases taken
    exact same

def GroupKind.changes : GroupKind → List FlagChange
  | .capture _ _ => []
  | .plain flags => flags

mutual

def Ast.changes : Ast → List FlagChange
  | .flags changes => changes
  | .repetition _ _ _ body => body.changes
  | .group kind body => kind.changes ++ body.changes
  | .alternation branches => Ast.changesOf branches
  | .sequence parts => Ast.changesOf parts
  | _ => []

/-- The changes of flags in several patterns. -/
def Ast.changesOf : List Ast → List FlagChange
  | [] => []
  | ast :: rest => ast.changes ++ Ast.changesOf rest

end

theorem Ast.changesOf_eq_flatMap (asts : List Ast) :
    Ast.changesOf asts = asts.flatMap Ast.changes := by
  induction asts with
  | nil => rfl
  | cons ast rest ih => rw [Ast.changesOf, ih, List.flatMap_cons]

theorem gathers_changes : Gathers Ast.changes where
  empty := by rw [Ast.changes] <;> simp
  alternation branches := by rw [Ast.changes, Ast.changesOf_eq_flatMap]
  sequence parts := by rw [Ast.changes, Ast.changesOf_eq_flatMap]

/-- The changes of flags in what has been read of a level. -/
def Level.changes (level : Level) : List FlagChange :=
  level.parts.flatMap Ast.changes ++ level.branches.flatMap Ast.changes

theorem mem_changes_close {level : Level} {change : FlagChange} :
    change ∈ level.close.changes ↔ change ∈ level.changes := gathers_changes.mem_close

namespace Reading

def changes (reading : Reading) : List FlagChange :=
  reading.level.changes ++
    reading.groups.flatMap fun group => group.kind.changes ++ group.outer.changes

theorem mem_changes_of_closed {reading : Reading} (closed : reading.groups = [])
    {change : FlagChange} : change ∈ reading.changes ↔ change ∈ reading.level.close.changes := by
  rw [changes, closed, List.flatMap_nil, List.append_nil, mem_changes_close]

/-- Verbose mode is on, or it comes back at the end of a group. -/
def InVerbose (reading : Reading) : Prop :=
  reading.verbose = true ∨ ∃ group ∈ reading.groups, group.verbose = true

/-- Verbose mode has been turned on by what has been read. -/
def Traced (reading : Reading) : Prop := reading.InVerbose → (.verbose, true) ∈ reading.changes

theorem traced_start (text : Text) : (start text).Traced := by
  rintro (on | ⟨group, inside, _⟩)
  · cases on
  · cases inside

/-- A step forgets no change of flags, and turns verbose mode on only by one. -/
def Grows (reading next : Reading) : Prop :=
  reading.changes ⊆ next.changes ∧
    (next.InVerbose → reading.InVerbose ∨ (.verbose, true) ∈ next.changes)

theorem Grows.traced {reading next : Reading} (grows : reading.Grows next)
    (traced : reading.Traced) : next.Traced := fun on =>
  (grows.2 on).elim (fun before => grows.1 (traced before)) id

theorem verboseAfter_eq_true {verbose : Bool} {changes : List FlagChange}
    (on : verboseAfter verbose changes = true) :
    verbose = true ∨ (.verbose, true) ∈ changes := by
  unfold verboseAfter at on
  cases found : changes.find? (·.1 == .verbose) with
  | none =>
    rw [found] at on
    exact .inl on
  | some change =>
    obtain ⟨flag, value⟩ := change
    rw [found] at on
    have same := List.find?_some found
    have value_eq : value = true := on
    rw [← beq_iff_eq.mp same, ← value_eq]
    exact .inr (List.mem_of_find?_eq_some found)

theorem changes_push (reading : Reading) (part : Ast) (rest : Text) :
    (reading.push part rest).changes = part.changes ++ reading.changes := by
  simp [changes, push, Level.push, Level.changes]

private theorem grows_push (reading : Reading) (part : Ast) (rest : Text) :
    reading.Grows (reading.push part rest) := by
  refine ⟨?_, .inl⟩
  rw [changes_push]
  exact List.subset_append_right _ _

private theorem grows_repeatPart {reading : Reading} {part : Ast} {parts : List Ast}
    (taken : reading.takePart = .ok (part, parts)) (least : Nat) (most : Option Nat)
    (greedy : Bool) (rest : Text) :
    reading.Grows { reading with
      level := { reading.level with parts := .repetition least most greedy part :: parts }
      rest } := by
  refine ⟨fun change inside => ?_, .inl⟩
  simpa [changes, Level.changes, Ast.changes, parts_of_takePart taken] using inside

private theorem grows_enter (reading : Reading) (kind : GroupKind) {verbose : Bool}
    (turned : verbose = true → reading.verbose = true ∨ (.verbose, true) ∈ kind.changes)
    (rest : Text) : reading.Grows (reading.enter kind verbose rest) := by
  refine ⟨fun change inside => ?_, ?_⟩
  · simp only [changes, enter, Level.changes, List.flatMap_nil, List.append_nil, List.nil_append,
      List.flatMap_cons, List.mem_append] at inside ⊢
    tauto
  · rintro (on | ⟨group, inside, ended⟩)
    · refine (turned on).imp .inl fun change => ?_
      exact List.mem_append_right _ (List.mem_append_left _ (List.mem_append_left _ change))
    · rcases List.mem_cons.mp inside with rfl | inside
      · exact .inl (.inl ended)
      · exact .inl (.inr ⟨group, inside, ended⟩)

private theorem grows_openGroup {reading next : Reading} {rest : Text}
    (opened : reading.openGroup rest = .ok next) : reading.Grows next := by
  obtain ⟨⟨opener, left⟩, _, made⟩ := bind_eq_ok.mp opened
  cases opener with
  | flags changes =>
    cases made
    refine ⟨(grows_push reading (.flags changes) left).1, ?_⟩
    rintro (on | ended)
    · refine (verboseAfter_eq_true on).imp .inl fun turned => ?_
      change _ ∈ (reading.push (.flags changes) left).changes
      rw [changes_push]
      exact List.mem_append_left _ turned
    · exact .inl (.inr ended)
  | plain flags =>
    cases made
    exact grows_enter reading (.plain flags) verboseAfter_eq_true left
  | capture name =>
    cases made
    exact grows_enter reading (.capture (reading.captures + 1) name) .inl left

private theorem grows_closeGroup {reading next : Reading} {rest : Text}
    (closed : reading.closeGroup rest = .ok next) : reading.Grows next := by
  unfold closeGroup at closed
  split at closed
  · cases closed
  · rename_i group groups opened
    cases closed
    refine ⟨fun change inside => ?_, ?_⟩
    · have inner : change ∈ reading.level.close.changes ↔ change ∈ reading.level.changes :=
        mem_changes_close
      simp only [changes, Level.push, Level.changes, List.flatMap_cons, Ast.changes,
        List.mem_append, opened] at inner inside ⊢
      tauto
    · rintro (on | ⟨outer, inside, ended⟩)
      · exact .inl (.inr ⟨group, opened ▸ List.mem_cons_self, on⟩)
      · exact .inl (.inr ⟨outer, opened ▸ List.mem_cons_of_mem _ inside, ended⟩)

private theorem grows_branch (reading : Reading) (rest : Text) :
    reading.Grows (reading.branch rest) := by
  refine ⟨fun change inside => ?_, .inl⟩
  simpa only [changes, branch, Level.changes, List.flatMap_cons, List.flatMap_nil, List.nil_append,
    List.mem_append, gathers_changes.mem_sequenceOf] using inside

theorem grows_step {reading next : Reading} {c : Char} {rest : Text}
    (stepped : reading.step c rest = .ok next) : reading.Grows next := by
  unfold step at stepped
  split at stepped
  · exact grows_openGroup stepped
  · exact grows_closeGroup stepped
  · cases stepped
    exact grows_branch reading rest
  · obtain ⟨⟨set, left⟩, _, made⟩ := map_eq_ok.mp stepped
    cases made
    exact grows_push reading set left
  iterate 3
    · obtain ⟨⟨part, parts⟩, taken, made⟩ := bind_eq_ok.mp stepped
      cases made
      exact grows_repeatPart taken ..
  · obtain ⟨⟨part, parts⟩, taken, found⟩ := bind_eq_ok.mp stepped
    obtain ⟨⟨⟨least, most, greedy⟩, left⟩, _, made⟩ := bind_eq_ok.mp found
    cases made
    exact grows_repeatPart taken ..
  · obtain ⟨⟨primitive, left⟩, _, made⟩ := map_eq_ok.mp stepped
    cases made
    exact grows_push reading _ left
  all_goals
    cases stepped
    exact grows_push reading _ rest

end Reading

end LocaleLint.Pattern
