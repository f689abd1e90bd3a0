import Mathlib
import LocaleLint.Proofs.Pattern.Relocation
import LocaleLint.Proofs.Pattern.Scan

/-!
# What regular expressions match

What a regular expression matches between two places does not depend on how it is searched for. The
machine finds a match at a place exactly if there is one, and what it finds is one of those that
there are; the order of preference only says which.
-/

namespace LocaleLint.Pattern

/-- A regular expression matches the text between two places, and notes marks, latest first. -/
inductive Regex.Matches : Regex → Place → Place → Marks → Prop
  | empty {p : Place} : Matches .empty p p []
  | one {cls : Unicode.CharClass} {position : Nat} {before : Option Char} {c : Char} {rest : Text}
      (has : cls.has c = true) :
      Matches (.one cls) ⟨position, before, c :: rest⟩ ⟨position + 1, some c, rest⟩ []
  | look {condition : Look} {p : Place} (holds : p.satisfies condition = true) :
      Matches (.look condition) p p []
  | capture {index : Nat} {body : Regex} {p q : Place} {marks : Marks}
      (inside : Matches body p q marks) :
      Matches (.capture index body) p q
        ((2 * index + 1, q.position) :: (marks ++ [(2 * index, p.position)]))
  | seq {first second : Regex} {p mid q : Place} {marks marks' : Marks}
      (before : Matches first p mid marks) (behind : Matches second mid q marks') :
      Matches (.seq first second) p q (marks' ++ marks)
  | left {first second : Regex} {p q : Place} {marks : Marks} (this : Matches first p q marks) :
      Matches (.alt first second) p q marks
  | right {first second : Regex} {p q : Place} {marks : Marks} (this : Matches second p q marks) :
      Matches (.alt first second) p q marks
  | skip {greedy : Bool} {body : Regex} {p : Place} : Matches (.optional greedy body) p p []
  | once {greedy : Bool} {body : Regex} {p q : Place} {marks : Marks}
      (inside : Matches body p q marks) : Matches (.optional greedy body) p q marks
  | last {greedy : Bool} {body : Regex} {p q : Place} {marks : Marks}
      (inside : Matches body p q marks) : Matches (.plus greedy body) p q marks
  | again {greedy : Bool} {body : Regex} {p mid q : Place} {marks marks' : Marks}
      (inside : Matches body p mid marks) (behind : Matches (.plus greedy body) mid q marks') :
      Matches (.plus greedy body) p q (marks' ++ marks)

/-! ## Ways through a program -/

/-- A way through a program from an address at a place to an address at a place, with the number of
its steps and the marks that it notes, latest first. -/
inductive Way (program : Program) : Nat → Place → Nat → Place → Nat → Marks → Prop
  | stay {p : Place} {x : Nat} : Way program 0 p x p x []
  | one {count position x y z : Nat} {before : Option Char} {c : Char} {rest : Text} {q : Place}
      {cls : Unicode.CharClass} {marks : Marks} (at_ : program[x]? = some (.one cls y))
      (has : cls.has c = true)
      (later : Way program count ⟨position + 1, some c, rest⟩ y q z marks) :
      Way program (count + 1) ⟨position, before, c :: rest⟩ x q z marks
  | silent {count x y z : Nat} {p q : Place} {step : Step} {noted marks : Marks}
      (at_ : program[x]? = some step) (branch : ⟨y, noted⟩ ∈ step.branches p ⟨x, []⟩)
      (later : Way program count p y q z marks) :
      Way program (count + 1) p x q z (marks ++ noted)

namespace Way

variable {program : Program} {p mid q : Place} {x y z count count' : Nat} {marks marks' : Marks}

theorem trans (way : Way program count p x mid y marks)
    (later : Way program count' mid y q z marks') :
    Way program (count + count') p x q z (marks' ++ marks) := by
  induction way with
  | stay => simpa using later
  | one at_ has _ ih =>
    rw [Nat.add_right_comm]
    exact .one at_ has (ih later)
  | silent at_ branch _ ih =>
    rw [Nat.add_right_comm, ← List.append_assoc]
    exact .silent at_ branch (ih later)

/-- A way of one step that takes no character. -/
theorem single {step : Step} (at_ : program[x]? = some step)
    (branch : ⟨y, marks⟩ ∈ step.branches p ⟨x, []⟩) : Way program 1 p x p y marks :=
  .silent at_ branch .stay

/-- A way behind a step that neither takes a character nor notes a mark. -/
theorem behind {step : Step} (later : Way program count p y q z marks)
    (at_ : program[x]? = some step) (branch : ⟨y, []⟩ ∈ step.branches p ⟨x, []⟩) :
    Way program (count + 1) p x q z marks := by
  simpa using Way.silent at_ branch later

/-- The first step of a way, if it takes no character. -/
theorem exists_branch {step : Step} (way : Way program count p x q z marks) (moves : x ≠ z)
    (at_ : program[x]? = some step) (silent : step.isSilent = true) :
    ∃ y noted later rest, ⟨y, noted⟩ ∈ step.branches p ⟨x, []⟩ ∧
      Way program rest p y q z later ∧ rest < count ∧ marks = later ++ noted := by
  cases way with
  | stay => exact absurd rfl moves
  | one step' =>
    cases at_.symm.trans step'
    cases silent
  | silent at' branch later =>
    cases at_.symm.trans at'
    exact ⟨_, _, _, _, branch, later, Nat.lt_succ_self _, rfl⟩

/-- Where a program accepts, no way goes on. -/
theorem eq_of_accept (way : Way program count p x q z marks)
    (at_ : program[x]? = some .accept) : q = p ∧ z = x ∧ marks = [] := by
  cases way with
  | stay => exact ⟨rfl, rfl, rfl⟩
  | one step => cases at_.symm.trans step
  | silent step branch =>
    cases at_.symm.trans step
    cases branch

end Way

/-- A step notes the same marks whatever a thread noted before. -/
theorem branches_eq_map (place : Place) (thread : Thread) (step : Step) :
    step.branches place thread = (step.branches place ⟨thread.address, []⟩).map
      fun next => ⟨next.address, next.marks ++ thread.marks⟩ := by
  cases step with
  | look condition next =>
    simp only [Step.branches]
    split <;> rfl
  | _ => rfl

/-! ## Runs find ways -/

section
variable {program : Program} {from_ : Place} {entry : Nat}

/-- A thread has come to a place on a way. -/
def Came (program : Program) (from_ : Place) (entry : Nat) (place : Place) (thread : Thread) :
    Prop :=
  ∃ count, Way program count from_ entry place thread.address thread.marks

theorem Came.branch {place : Place} {thread next : Thread} {step : Step}
    (came : Came program from_ entry place thread) (at_ : program[thread.address]? = some step)
    (branch : next ∈ step.branches place thread) : Came program from_ entry place next := by
  obtain ⟨count, way⟩ := came
  rw [branches_eq_map] at branch
  obtain ⟨⟨address, noted⟩, alone, rfl⟩ := List.mem_map.mp branch
  exact ⟨count + 1, way.trans (.single at_ alone)⟩

theorem came_of_settles {place : Place} {pending left : List Thread} {visited : List Nat}
    (settles : Settles program place pending visited left)
    (old : ∀ thread ∈ pending, Came program from_ entry place thread) :
    ∀ thread ∈ left, Came program from_ entry place thread := by
  induction settles with
  | nil => nofun
  | seen _ _ ih | missing _ _ _ ih => exact ih (List.forall_mem_cons.mp old).2
  | wait _ _ _ ih =>
    obtain ⟨first, others⟩ := List.forall_mem_cons.mp old
    exact List.forall_mem_cons.mpr ⟨first, ih others⟩
  | follow _ at_ _ _ ih =>
    obtain ⟨first, others⟩ := List.forall_mem_cons.mp old
    exact ih (List.forall_mem_append.mpr ⟨fun next => first.branch at_, others⟩)
  | accept => exact List.forall_mem_singleton.mpr (List.forall_mem_cons.mp old).1

theorem came_of_take {position : Nat} {before : Option Char} {c : Char} {rest : Text}
    {threads : List Thread}
    (old : ∀ thread ∈ threads, Came program from_ entry ⟨position, before, c :: rest⟩ thread) :
    ∀ thread ∈ take program c threads,
      Came program from_ entry ⟨position + 1, some c, rest⟩ thread := by
  intro thread inside
  obtain ⟨source, member, taken⟩ := List.mem_filterMap.mp inside
  unfold Thread.take? at taken
  split at taken
  · next at_ =>
    split at taken <;> cases taken
    next has =>
    obtain ⟨count, way⟩ := old source member
    exact ⟨count + 1, way.trans (.one at_ has .stay)⟩
  · cases taken

/-- The thread that accepts has come on a way from where the run started. -/
theorem way_of_run {rest : Text} {position stop : Nat} {before : Option Char}
    {threads : List Thread} {marks : Marks}
    (old : ∀ thread ∈ threads, Came program from_ entry ⟨position, before, rest⟩ thread)
    (ran : run program position before rest threads = some (stop, marks)) :
    ∃ count q address, Way program count from_ entry q address marks ∧
      program[address]? = some .accept ∧ q.position = stop := by
  have ends {place : Place} {threads : List Thread}
      (old : ∀ thread ∈ threads, Came program from_ entry place thread)
      (accepts : accepted? program place threads = some (stop, marks)) :
      ∃ count q address, Way program count from_ entry q address marks ∧
        program[address]? = some .accept ∧ q.position = stop := by
    obtain ⟨thread, inside, accepts⟩ := List.exists_of_findSome?_eq_some accepts
    unfold Thread.accepted? at accepts
    split at accepts <;> cases accepts
    next at_ =>
    obtain ⟨count, way⟩ := old thread inside
    exact ⟨count, place, thread.address, way, at_, rfl⟩
  induction rest generalizing position before threads with
  | nil => exact ends (came_of_settles (settles_settled ..) old) ran
  | cons c rest ih =>
    have settled := came_of_settles (settles_settled program _ threads) old
    rw [run_cons, Option.or_eq_some_iff] at ran
    rcases ran with onward | ⟨-, here⟩
    · exact ih (came_of_take settled) onward
    · exact ends settled here

end

/-! ## Ways are found -/

/-- A way leads from an address at a place to where the program accepts. -/
def Leads (program : Program) (place : Place) (address : Nat) : Prop :=
  ∃ count q z marks, Way program count place address q z marks ∧ program[z]? = some .accept

/-- What threads leave behind that have settled without accepting: the branches of an address that
was visited were visited too, and if its step takes a character, a thread is left that waits there. -/
structure Exhausted (program : Program) (place : Place) (left : List Thread)
    (old visited : List Nat) : Prop where
  grown : ∀ x ∈ old, x ∈ visited
  waits : ∀ x ∈ visited, x ∉ old → ∀ step, program[x]? = some step → step.isSilent = false →
    ∃ thread ∈ left, thread.address = x
  closed : ∀ x ∈ visited, x ∉ old → ∀ step, program[x]? = some step →
    ∀ next ∈ step.branches place ⟨x, []⟩, next.address ∈ visited

section
variable {program : Program} {place : Place} {left : List Thread} {old visited : List Nat}
  {address : Nat}

private theorem Exhausted.of_cons (later : Exhausted program place left (address :: old) visited)
    (waits : ∀ step, program[address]? = some step → step.isSilent = false →
      ∃ thread ∈ left, thread.address = address)
    (closed : ∀ step, program[address]? = some step →
      ∀ next ∈ step.branches place ⟨address, []⟩, next.address ∈ visited) :
    Exhausted program place left old visited where
  grown x inside := later.grown x (List.mem_cons_of_mem _ inside)
  waits x inside fresh := by
    by_cases same : x = address
    · exact same ▸ waits
    · exact later.waits x inside (List.not_mem_cons_of_ne_of_not_mem same fresh)
  closed x inside fresh := by
    by_cases same : x = address
    · exact same ▸ closed
    · exact later.closed x inside (List.not_mem_cons_of_ne_of_not_mem same fresh)

theorem Settles.exhausted {pending : List Thread}
    (settles : Settles program place pending old left) (none : accepts program left = false) :
    ∃ visited, Exhausted program place left old visited ∧
      ∀ thread ∈ pending, thread.address ∈ visited := by
  induction settles with
  | @nil old =>
    have grown : ∀ x ∈ old, x ∈ old := fun _ => id
    exact ⟨old, ⟨grown, fun x inside fresh => absurd inside fresh,
      fun x inside fresh => absurd inside fresh⟩, List.forall_mem_nil _⟩
  | seen again _ ih =>
    obtain ⟨visited, exhausted, all⟩ := ih none
    exact ⟨visited, exhausted, List.forall_mem_cons.mpr ⟨exhausted.grown _ again, all⟩⟩
  | missing _ missing _ ih =>
    obtain ⟨visited, exhausted, all⟩ := ih none
    refine ⟨visited, exhausted.of_cons (fun step at_ => ?_) (fun step at_ => ?_),
      List.forall_mem_cons.mpr ⟨exhausted.grown _ List.mem_cons_self, all⟩⟩ <;>
      cases missing.symm.trans at_
  | @wait thread pending left old cls next _ at_ _ ih =>
    have waits : accepts program (thread :: left) = accepts program left := by
      simp [accepts, at_]
    obtain ⟨visited, exhausted, all⟩ := ih (waits.symm.trans none)
    have more : Exhausted program place (thread :: left) (thread.address :: old) visited :=
      ⟨exhausted.grown, fun x inside fresh step at_ loud =>
        (exhausted.waits x inside fresh step at_ loud).imp fun _ =>
          And.imp_left (List.mem_cons_of_mem _), exhausted.closed⟩
    refine ⟨visited, more.of_cons (fun _ _ _ => ⟨thread, List.mem_cons_self, rfl⟩)
      (fun step at' => ?_), List.forall_mem_cons.mpr ⟨exhausted.grown _ List.mem_cons_self, all⟩⟩
    cases at_.symm.trans at'
    exact List.forall_mem_nil _
  | @follow thread pending left old step _ at_ silent _ ih =>
    obtain ⟨visited, exhausted, all⟩ := ih none
    obtain ⟨branches, all⟩ := List.forall_mem_append.mp all
    rw [branches_eq_map, List.forall_mem_map] at branches
    refine ⟨visited, exhausted.of_cons (fun step at' loud => ?_) (fun step at' => ?_),
      List.forall_mem_cons.mpr ⟨exhausted.grown _ List.mem_cons_self, all⟩⟩ <;>
      cases at_.symm.trans at'
    · cases silent.symm.trans loud
    · exact branches
  | accept _ step => simp [accepts, step] at none

/-- If threads have settled without accepting, a way goes on from one of those that are left, with a
character. -/
theorem exists_left_of_leads (exhausted : Exhausted program place left [] visited)
    (none : accepts program left = false) (seen : address ∈ visited)
    (leads : Leads program place address) :
    ∃ thread ∈ left, ∃ cls next c rest, program[thread.address]? = some (.one cls next) ∧
      place.rest = c :: rest ∧ cls.has c = true ∧
        Leads program ⟨place.position + 1, some c, rest⟩ next := by
  obtain ⟨count, q, z, marks, way, accept⟩ := leads
  induction way with
  | stay =>
    obtain ⟨thread, inside, rfl⟩ := exhausted.waits _ seen List.not_mem_nil _ accept rfl
    have accepting : accepts program left = true :=
      List.any_eq_true.mpr ⟨thread, inside, by simp [accept]⟩
    cases none.symm.trans accepting
  | @one _ position x y _ _ c rest _ cls _ at_ has later _ =>
    obtain ⟨thread, inside, rfl⟩ := exhausted.waits _ seen List.not_mem_nil _ at_ rfl
    exact ⟨thread, inside, cls, y, c, rest, at_, rfl, has, _, _, _, _, later, accept⟩
  | silent at_ branch _ ih =>
    exact ih exhausted (exhausted.closed _ seen List.not_mem_nil _ at_ _ branch) accept

end

/-- Where a way leads from one of the threads, a run finds an end. -/
theorem run_isSome_of_leads {program : Program} {rest : Text} {position : Nat}
    {before : Option Char} {threads : List Thread} {thread : Thread} (inside : thread ∈ threads)
    (leads : Leads program ⟨position, before, rest⟩ thread.address) :
    (run program position before rest threads).isSome = true := by
  induction rest generalizing position before threads thread with
  | nil =>
    rw [run, ← accepts_eq_isSome]
    by_contra none
    rw [Bool.not_eq_true] at none
    obtain ⟨visited, exhausted, all⟩ := (settles_settled program _ threads).exhausted none
    obtain ⟨_, _, _, _, _, _, _, more, -⟩ :=
      exists_left_of_leads exhausted none (all thread inside) leads
    cases more
  | cons c rest ih =>
    rw [run_cons, Option.isSome_or, Bool.or_eq_true, ← accepts_eq_isSome, or_iff_not_imp_right,
      Bool.not_eq_true]
    intro none
    obtain ⟨visited, exhausted, all⟩ := (settles_settled program _ threads).exhausted none
    obtain ⟨thread, left, cls, next, d, rest', at_, same, has, leads⟩ :=
      exists_left_of_leads exhausted none (all thread inside) leads
    cases same
    have taken : { thread with address := next } ∈
        take program c (settled program ⟨position, before, c :: rest⟩ threads) :=
      List.mem_filterMap.mpr ⟨thread, left, by rw [Thread.take?, at_]; exact if_pos has⟩
    exact ih taken leads

/-! ## Ways through regular expressions -/

/-- A program has some steps one after another from an address on. -/
def HasSteps (program : Program) (base : Nat) (steps : List Step) : Prop :=
  ∀ i < steps.length, program[base + i]? = steps[i]?

section
variable {program : Program} {base : Nat}

theorem hasSteps_cons {step : Step} {steps : List Step} :
    HasSteps program base (step :: steps) ↔
      program[base]? = some step ∧ HasSteps program (base + 1) steps := by
  unfold HasSteps
  constructor
  · intro has
    refine ⟨has 0 (Nat.succ_pos _), fun i small => ?_⟩
    rw [Nat.add_right_comm, Nat.add_assoc]
    exact has (i + 1) (Nat.succ_lt_succ small)
  · rintro ⟨first, others⟩ i small
    cases i with
    | zero => exact first
    | succ i =>
      have later := others i (Nat.lt_of_succ_lt_succ small)
      rwa [Nat.add_right_comm, Nat.add_assoc] at later

theorem hasSteps_append {steps later : List Step} : HasSteps program base (steps ++ later) ↔
    HasSteps program base steps ∧ HasSteps program (base + steps.length) later := by
  induction steps generalizing base with
  | nil => simp [HasSteps]
  | cons step steps ih =>
    rw [List.cons_append, hasSteps_cons, hasSteps_cons, ih, List.length_cons, and_assoc,
      Nat.add_right_comm, Nat.add_assoc]

theorem hasSteps_singleton {step : Step} :
    HasSteps program base [step] ↔ program[base]? = some step := by
  simp [HasSteps]

end

namespace Regex

theorem hasSteps_program (r : Regex) : HasSteps r.program 0 (r.code 0 r.size) := by
  intro i small
  rw [length_code] at small
  rw [Nat.zero_add, program_getElem?, if_pos small]

theorem branches_forkTo (greedy : Bool) (again next x : Nat) (place : Place) (target : Thread) :
    target ∈ (forkTo greedy again next).branches place ⟨x, []⟩ ↔
      target = ⟨again, []⟩ ∨ target = ⟨next, []⟩ := by
  cases greedy <;> simp [forkTo, Step.branches, or_comm]

theorem isSilent_forkTo (greedy : Bool) (again next : Nat) :
    (forkTo greedy again next).isSilent = true := by
  cases greedy <;> rfl

variable {program : Program} {r : Regex} {base next : Nat} {p q : Place} {marks : Marks}

/-- Where a regular expression matches, a way leads through its steps. -/
theorem Matches.way (this : r.Matches p q marks) (has : HasSteps program base (r.code base next)) :
    ∃ count, Way program count p base q next marks := by
  induction this generalizing base next with
  | empty => exact ⟨1, .single (hasSteps_singleton.mp has) (by simp [Step.branches])⟩
  | one taken => exact ⟨1, .one (hasSteps_singleton.mp has) taken .stay⟩
  | look holds => exact ⟨1, .single (hasSteps_singleton.mp has) (by simp [Step.branches, holds])⟩
  | @capture index body p q marks _ ih =>
    rw [code, hasSteps_cons, hasSteps_append, hasSteps_singleton, length_code] at has
    obtain ⟨opens, inside, closes⟩ := has
    obtain ⟨_, way⟩ := ih inside
    have opened : Way program 1 p base p (base + 1) [(2 * index, p.position)] :=
      .single opens (by simp [Step.branches])
    have closed : Way program 1 q (base + 1 + body.size) q next [(2 * index + 1, q.position)] :=
      .single closes (by simp [Step.branches])
    exact ⟨_, (opened.trans way).trans closed⟩
  | seq _ _ ih₁ ih₂ =>
    rw [code, hasSteps_append, length_code] at has
    obtain ⟨_, before⟩ := ih₁ has.1
    obtain ⟨_, behind⟩ := ih₂ has.2
    exact ⟨_, before.trans behind⟩
  | left _ ih =>
    rw [code, hasSteps_cons, hasSteps_append, length_code] at has
    obtain ⟨_, way⟩ := ih has.2.1
    exact ⟨_, way.behind has.1 (by simp [Step.branches])⟩
  | right _ ih =>
    rw [code, hasSteps_cons, hasSteps_append, length_code] at has
    obtain ⟨_, way⟩ := ih has.2.2
    exact ⟨_, way.behind has.1 (by simp [Step.branches])⟩
  | skip =>
    rw [code, hasSteps_cons] at has
    exact ⟨1, .single has.1 ((branches_forkTo ..).mpr (.inr rfl))⟩
  | once _ ih =>
    rw [code, hasSteps_cons] at has
    obtain ⟨_, way⟩ := ih has.2
    exact ⟨_, way.behind has.1 ((branches_forkTo ..).mpr (.inl rfl))⟩
  | last _ ih =>
    rw [code, hasSteps_append, hasSteps_singleton, length_code] at has
    obtain ⟨_, way⟩ := ih has.1
    exact ⟨_, way.trans (.single has.2 ((branches_forkTo ..).mpr (.inr rfl)))⟩
  | again _ _ ih₁ ih₂ =>
    have steps := has
    rw [code, hasSteps_append, hasSteps_singleton, length_code] at steps
    obtain ⟨_, way⟩ := ih₁ steps.1
    obtain ⟨_, behind⟩ := ih₂ has
    have back := way.trans (.single steps.2 ((branches_forkTo ..).mpr (.inl rfl)))
    exact ⟨_, back.trans behind⟩

/-- A way that leaves the steps of a regular expression goes through what it matches. -/
theorem matches_of_way {count z : Nat} (way : Way program count p base q z marks)
    (has : HasSteps program base (r.code base next)) (outside : z < base ∨ base + r.size ≤ z) :
    ∃ mid noted later rest, r.Matches p mid noted ∧ Way program rest mid next q z later ∧
      rest < count ∧ marks = later ++ noted := by
  have moves {r : Regex} {base : Nat} (outside : z < base ∨ base + r.size ≤ z) : base ≠ z := by
    have := r.size_pos
    omega
  induction r generalizing base next p count marks with
  | empty =>
    obtain ⟨y, noted, later, rest, branch, onward, less, rfl⟩ :=
      way.exists_branch (moves outside) (hasSteps_singleton.mp has) rfl
    cases List.mem_singleton.mp branch
    exact ⟨p, [], later, rest, .empty, onward, less, rfl⟩
  | one cls =>
    cases way with
    | stay => exact absurd rfl (moves outside)
    | one at_ taken later =>
      cases (hasSteps_singleton.mp has).symm.trans at_
      exact ⟨_, [], _, _, .one taken, later, Nat.lt_succ_self _, (List.append_nil _).symm⟩
    | silent at_ branch =>
      cases (hasSteps_singleton.mp has).symm.trans at_
      cases branch
  | look condition =>
    obtain ⟨y, noted, later, rest, branch, onward, less, rfl⟩ :=
      way.exists_branch (moves outside) (hasSteps_singleton.mp has) rfl
    rw [Step.branches] at branch
    split at branch
    · next holds =>
      cases List.mem_singleton.mp branch
      exact ⟨p, [], later, rest, .look holds, onward, less, rfl⟩
    · cases branch
  | capture index body ih =>
    have size : (capture index body).size = body.size + 2 := rfl
    rw [code, hasSteps_cons, hasSteps_append, hasSteps_singleton, length_code] at has
    obtain ⟨opens, inside, closes⟩ := has
    obtain ⟨y, noted, _, _, branch, inner, less, rfl⟩ :=
      way.exists_branch (moves outside) opens rfl
    cases List.mem_singleton.mp branch
    obtain ⟨mid, marks, _, _, this, behind, less', rfl⟩ := ih inner inside (by omega)
    obtain ⟨y, noted, later, rest, branch, onward, less'', rfl⟩ :=
      behind.exists_branch (by omega) closes rfl
    cases List.mem_singleton.mp branch
    exact ⟨mid, _, later, rest, .capture this, onward, by omega, by simp⟩
  | seq first second ih₁ ih₂ =>
    have size : (seq first second).size = first.size + second.size := rfl
    rw [code, hasSteps_append, length_code] at has
    obtain ⟨mid, noted, _, _, before, inner, less, rfl⟩ := ih₁ way has.1 (by omega)
    obtain ⟨mid', noted', later, rest, behind, onward, less', rfl⟩ := ih₂ inner has.2 (by omega)
    exact ⟨mid', _, later, rest, .seq before behind, onward, by omega, List.append_assoc ..⟩
  | alt first second ih₁ ih₂ =>
    have size : (alt first second).size = first.size + second.size + 1 := rfl
    rw [code, hasSteps_cons, hasSteps_append, length_code] at has
    obtain ⟨y, noted, _, _, branch, inner, less, rfl⟩ := way.exists_branch (moves outside) has.1 rfl
    rcases List.mem_pair.mp branch with same | same <;> cases same
    · obtain ⟨mid, noted, later, rest, this, onward, less', rfl⟩ := ih₁ inner has.2.1 (by omega)
      exact ⟨mid, noted, later, rest, .left this, onward, by omega, List.append_nil _⟩
    · obtain ⟨mid, noted, later, rest, this, onward, less', rfl⟩ := ih₂ inner has.2.2 (by omega)
      exact ⟨mid, noted, later, rest, .right this, onward, by omega, List.append_nil _⟩
  | optional greedy body ih =>
    have size : (optional greedy body).size = body.size + 1 := rfl
    rw [code, hasSteps_cons] at has
    obtain ⟨y, noted, _, _, branch, inner, less, rfl⟩ :=
      way.exists_branch (moves outside) has.1 (isSilent_forkTo ..)
    rcases (branches_forkTo ..).mp branch with same | same <;> cases same
    · obtain ⟨mid, noted, later, rest, this, onward, less', rfl⟩ := ih inner has.2 (by omega)
      exact ⟨mid, noted, later, rest, .once this, onward, by omega, List.append_nil _⟩
    · exact ⟨p, [], _, _, .skip, inner, less, rfl⟩
  | plus greedy body ih =>
    have size : (plus greedy body).size = body.size + 1 := rfl
    have steps := has
    rw [code, hasSteps_append, hasSteps_singleton, length_code] at steps
    -- Each round takes at least one step, so the rounds that are left are on a shorter way.
    induction count using Nat.strongRecOn generalizing p marks with
    | ind count rounds =>
      obtain ⟨mid, noted, _, _, this, inner, less, rfl⟩ := ih way steps.1 (by omega)
      obtain ⟨y, fresh, _, _, branch, onward, less', rfl⟩ :=
        inner.exists_branch (by omega) steps.2 (isSilent_forkTo ..)
      rcases (branches_forkTo ..).mp branch with same | same <;> cases same
      · obtain ⟨mid', noted', later, rest, behind, onward', less'', rfl⟩ :=
          rounds _ (by omega) onward
        exact ⟨mid', _, later, rest, .again this behind, onward', by omega, by simp⟩
      · exact ⟨mid, noted, _, _, .last this, onward, by omega, by simp⟩

/-- What the machine finds at a place is matched there. -/
theorem matches_of_matchAt {place : Place} {m : Match} (found : matchAt r.program place = some m) :
    ∃ stop, r.Matches place stop m.marks ∧ m.start = place.position ∧ m.stop = stop.position := by
  obtain ⟨⟨position, marks⟩, ran, rfl⟩ := Option.map_eq_some_iff.mp found
  have start : ∀ thread ∈ [Thread.mk 0 []], Came r.program place 0 place thread :=
    List.forall_mem_singleton.mpr ⟨0, .stay⟩
  obtain ⟨count, q, address, way, accepts, rfl⟩ := way_of_run start ran
  have last : address = r.size := by
    rw [program_getElem?] at accepts
    split at accepts
    · exact absurd (List.mem_of_getElem? accepts) (r.accept_notMem_code _ _)
    · split at accepts
      · assumption
      · cases accepts
  subst last
  obtain ⟨mid, noted, later, rest, this, onward, -, rfl⟩ :=
    matches_of_way way r.hasSteps_program (by omega)
  obtain ⟨rfl, -, rfl⟩ := onward.eq_of_accept accepts
  exact ⟨q, this, rfl, rfl⟩

/-- The machine finds a match at a place exactly if there is one. -/
theorem matchAt_isSome_iff {place : Place} :
    (matchAt r.program place).isSome = true ↔ ∃ stop marks, r.Matches place stop marks := by
  constructor
  · intro some
    obtain ⟨m, found⟩ := Option.isSome_iff_exists.mp some
    obtain ⟨stop, this, -⟩ := matches_of_matchAt found
    exact ⟨stop, m.marks, this⟩
  · rintro ⟨stop, marks, this⟩
    obtain ⟨count, way⟩ := this.way r.hasSteps_program
    have accepts : r.program[r.size]? = some .accept := by
      rw [program_getElem?, if_neg (Nat.lt_irrefl _), if_pos rfl]
    have start : Thread.mk 0 [] ∈ [Thread.mk 0 []] := List.mem_singleton_self _
    have ran := run_isSome_of_leads start ⟨count, stop, r.size, marks, way, accepts⟩
    rw [matchAt, Option.isSome_map]
    exact ran

end Regex

end LocaleLint.Pattern
