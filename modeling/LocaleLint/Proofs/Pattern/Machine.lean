import Mathlib
import LocaleLint.Pattern.Search

/-!
# Running programs

What the machine does depends on the steps of a program only, not on the addresses that they have.
So a program that is part of another one runs there as it does alone, and a choice between two
programs gives what the first one gives, or else what the second one gives.
-/

namespace LocaleLint.Pattern

/-! ## Settling -/

/-- The threads that a step which takes no character leads to; the others lead nowhere. -/
def Step.branches (place : Place) (thread : Thread) : Step → List Thread
  | .one _ _ => []
  | .look condition next =>
    if place.satisfies condition then [{ thread with address := next }] else []
  | .mark slot next => [⟨next, (slot, place.position) :: thread.marks⟩]
  | .jump next => [{ thread with address := next }]
  | .fork first second => [{ thread with address := first }, { thread with address := second }]
  | .accept => []

/-- Whether a step takes no character and does not accept. -/
def Step.isSilent : Step → Bool
  | .one _ _ => false
  | .accept => false
  | _ => true

/-- What is left of threads when all steps that take no character are done, without a bound on the
number of rounds. -/
inductive Settles (program : Program) (place : Place) :
    List Thread → List Nat → List Thread → Prop
  | nil {visited : List Nat} : Settles program place [] visited []
  | seen {thread : Thread} {pending left : List Thread} {visited : List Nat}
      (again : thread.address ∈ visited) (later : Settles program place pending visited left) :
      Settles program place (thread :: pending) visited left
  | missing {thread : Thread} {pending left : List Thread} {visited : List Nat}
      (fresh : thread.address ∉ visited) (none : program[thread.address]? = none)
      (later : Settles program place pending (thread.address :: visited) left) :
      Settles program place (thread :: pending) visited left
  | wait {thread : Thread} {pending left : List Thread} {visited : List Nat}
      {cls : Unicode.CharClass} {next : Nat} (fresh : thread.address ∉ visited)
      (step : program[thread.address]? = some (.one cls next))
      (later : Settles program place pending (thread.address :: visited) left) :
      Settles program place (thread :: pending) visited (thread :: left)
  | follow {thread : Thread} {pending left : List Thread} {visited : List Nat} {step : Step}
      (fresh : thread.address ∉ visited) (at_ : program[thread.address]? = some step)
      (silent : step.isSilent)
      (later : Settles program place (step.branches place thread ++ pending)
        (thread.address :: visited) left) :
      Settles program place (thread :: pending) visited left
  | accept {thread : Thread} {pending : List Thread} {visited : List Nat}
      (fresh : thread.address ∉ visited) (step : program[thread.address]? = some .accept) :
      Settles program place (thread :: pending) visited [thread]

/-- How many addresses of a program have not been visited. -/
def unvisited (program : Program) (visited : List Nat) : Nat :=
  ((List.range program.size).filter (· ∉ visited)).length

theorem unvisited_cons_le (program : Program) (address : Nat) (visited : List Nat) :
    unvisited program (address :: visited) ≤ unvisited program visited := by
  apply List.Sublist.length_le
  apply List.monotone_filter_right
  intro x
  simp only [List.mem_cons, not_or, decide_eq_true_eq]
  exact And.right

theorem unvisited_cons_lt {program : Program} {address : Nat} {visited : List Nat}
    (valid : address < program.size) (fresh : address ∉ visited) :
    unvisited program (address :: visited) < unvisited program visited := by
  have fewer : (List.range program.size).filter (· ∉ address :: visited) =
      ((List.range program.size).filter (· ∉ visited)).erase address := by
    rw [List.Nodup.erase_eq_filter (List.nodup_range.filter _), List.filter_filter]
    apply List.filter_congr
    intro x _
    by_cases same : x = address <;> simp [same]
  have inside : address ∈ (List.range program.size).filter (· ∉ visited) := by
    simp [valid, fresh]
  unfold unvisited
  rw [fewer, List.length_erase_of_mem inside]
  have := List.length_pos_of_mem inside
  omega

/-- With enough rounds the threads are settled. -/
theorem settles_settle (program : Program) (place : Place) {fuel : Nat} {pending : List Thread}
    {visited : List Nat} (enough : pending.length + 2 * unvisited program visited < fuel) :
    Settles program place pending visited (settle program place fuel pending visited) := by
  induction fuel generalizing pending visited with
  | zero => omega
  | succ fuel ih =>
    cases pending with
    | nil => exact .nil
    | cons thread pending =>
      rw [List.length_cons] at enough
      unfold settle
      by_cases again : thread.address ∈ visited
      · rw [if_pos (List.contains_iff_mem.mpr again)]
        exact .seen again (ih (by omega))
      · rw [if_neg (fun inside => again (List.contains_iff_mem.mp inside))]
        have fewer := unvisited_cons_le program thread.address visited
        cases step : program[thread.address]? with
        | none => exact .missing again step (ih (by omega))
        | some step' =>
          have valid : thread.address < program.size := (Array.getElem?_eq_some_iff.mp step).1
          have less := unvisited_cons_lt valid again
          cases step' with
          | one cls next => exact .wait again step (ih (by omega))
          | look condition next =>
            refine .follow again step rfl ?_
            unfold Step.branches
            dsimp only
            split
            · rw [List.singleton_append]
              exact ih (by rw [List.length_cons]; omega)
            · rw [List.nil_append]
              exact ih (by omega)
          | mark slot next =>
            refine .follow again step rfl ?_
            rw [Step.branches, List.singleton_append]
            exact ih (by rw [List.length_cons]; omega)
          | jump next =>
            refine .follow again step rfl ?_
            rw [Step.branches, List.singleton_append]
            exact ih (by rw [List.length_cons]; omega)
          | fork first second =>
            refine .follow again step rfl ?_
            rw [Step.branches, List.cons_append, List.singleton_append]
            exact ih (by simp only [List.length_cons]; omega)
          | accept => exact .accept again step

theorem settles_settled (program : Program) (place : Place) (threads : List Thread) :
    Settles program place threads [] (settled program place threads) := by
  apply settles_settle
  have bound : unvisited program [] ≤ program.size := by
    unfold unvisited
    simp
  omega

/-- What is left of threads is determined. -/
theorem Settles.unique {program : Program} {place : Place} {pending left left' : List Thread}
    {visited : List Nat} (settles : Settles program place pending visited left)
    (settles' : Settles program place pending visited left') : left = left' := by
  induction settles generalizing left' with
  | nil =>
    cases settles'
    rfl
  | seen again _ ih =>
    cases settles' with
    | seen _ later => exact ih later
    | missing fresh | wait fresh | follow fresh | accept fresh => exact absurd again fresh
  | missing fresh none _ ih =>
    cases settles' with
    | seen again => exact absurd again fresh
    | missing _ _ later => exact ih later
    | wait _ step | follow _ step | accept _ step => simp [none] at step
  | wait fresh step _ ih =>
    cases settles' with
    | seen again => exact absurd again fresh
    | wait _ _ later => rw [ih later]
    | missing _ none => simp [none] at step
    | follow _ step' silent =>
      rw [step] at step'
      cases step'
      cases silent
    | accept _ step' => simp [step] at step'
  | follow fresh step silent _ ih =>
    cases settles' with
    | seen again => exact absurd again fresh
    | missing _ none => simp [none] at step
    | wait _ step' =>
      rw [step] at step'
      cases step'
      cases silent
    | follow _ step' _ later =>
      rw [step] at step'
      cases step'
      exact ih later
    | accept _ step' =>
      rw [step] at step'
      cases step'
      cases silent
  | accept fresh step =>
    cases settles' with
    | seen again => exact absurd again fresh
    | missing _ none => simp [none] at step
    | wait _ step' => simp [step] at step'
    | follow _ step' silent =>
      rw [step] at step'
      cases step'
      cases silent
    | accept => rfl

/-! ## Programs inside programs -/

/-- The marks of a program whose slots come a number of groups later. -/
def Marks.shift (groups : Nat) (marks : Marks) : Marks :=
  marks.map fun (slot, position) => (slot + 2 * groups, position)

/-- A step with other addresses and later groups. -/
def Step.map (address : Nat → Nat) (groups : Nat) : Step → Step
  | .one cls next => .one cls (address next)
  | .look condition next => .look condition (address next)
  | .mark slot next => .mark (slot + 2 * groups) (address next)
  | .jump next => .jump (address next)
  | .fork first second => .fork (address first) (address second)
  | .accept => .accept

/-- A thread with another address and later groups. -/
def Thread.map (address : Nat → Nat) (groups : Nat) (thread : Thread) : Thread :=
  ⟨address thread.address, thread.marks.shift groups⟩

/-- The addresses that a step goes on to. -/
def Step.targets : Step → List Nat
  | .one _ next => [next]
  | .look _ next => [next]
  | .mark _ next => [next]
  | .jump next => [next]
  | .fork first second => [first, second]
  | .accept => []

/-- A program stands in another one, at addresses and with groups of its own there. -/
structure Embeds (inner outer : Program) (address : Nat → Nat) (groups : Nat) : Prop where
  steps : ∀ {x : Nat} {step : Step}, inner[x]? = some step →
    outer[address x]? = some (step.map address groups)
  closed : ∀ {x : Nat} {step : Step}, inner[x]? = some step → ∀ y ∈ step.targets, y < inner.size
  injective : ∀ {x y : Nat}, x < inner.size → y < inner.size → address x = address y → x = y

def accepts (program : Program) (threads : List Thread) : Bool :=
  threads.any fun thread => (program[thread.address]?).any fun step => step matches .accept

/-- The addresses at which a program stands in another one, without the one where it accepts. -/
def Inside (inner : Program) (address : Nat → Nat) (y : Nat) : Prop :=
  ∃ x step, inner[x]? = some step ∧ step ≠ .accept ∧ y = address x

theorem branches_map (address : Nat → Nat) (groups : Nat) (place : Place) (thread : Thread)
    (step : Step) :
    (step.map address groups).branches place (thread.map address groups) =
      (step.branches place thread).map (Thread.map address groups) := by
  cases step with
  | look condition next =>
    unfold Step.map Step.branches
    dsimp only
    split <;> rfl
  | _ => rfl

theorem isSilent_map (address : Nat → Nat) (groups : Nat) (step : Step) :
    (step.map address groups).isSilent = step.isSilent := by
  cases step <;> rfl

theorem branches_targets {place : Place} {thread next : Thread} {step : Step}
    (inside : next ∈ step.branches place thread) : next.address ∈ step.targets := by
  cases step with
  | look condition target =>
    unfold Step.branches at inside
    dsimp only at inside
    split at inside
    · rw [List.mem_singleton.mp inside]
      exact List.mem_singleton_self _
    · cases inside
  | fork first second =>
    rcases List.mem_pair.mp inside with rfl | rfl
    · exact List.mem_cons_self
    · exact List.mem_cons_of_mem _ List.mem_cons_self
  | mark slot target =>
    rw [List.mem_singleton.mp inside]
    exact List.mem_singleton_self _
  | jump target =>
    rw [List.mem_singleton.mp inside]
    exact List.mem_singleton_self _
  | one _ _ => cases inside
  | accept => cases inside

private theorem mem_visited_iff {inner outer : Program} {address : Nat → Nat} {groups entry : Nat}
    (embeds : Embeds inner outer address groups) {visited seen : List Nat}
    (same : ∀ x < inner.size, address x ∈ seen ↔ x ∈ visited) (valid : entry < inner.size) :
    ∀ x < inner.size, address x ∈ address entry :: seen ↔ x ∈ entry :: visited := by
  intro x small
  have equal : address x = address entry ↔ x = entry :=
    ⟨embeds.injective small valid, congrArg address⟩
  rw [List.mem_cons, List.mem_cons, same x small, equal]

private theorem outside_visited {inner : Program} {address : Nat → Nat} {entry : Nat} {step : Step}
    (at_ : inner[entry]? = some step) (going : step ≠ .accept) {seen seen' : List Nat}
    (same : ∀ y, ¬ Inside inner address y → (y ∈ seen' ↔ y ∈ address entry :: seen)) :
    ∀ y, ¬ Inside inner address y → (y ∈ seen' ↔ y ∈ seen) := by
  intro y outside
  have other : y ≠ address entry := fun equal => outside ⟨entry, step, at_, going, equal⟩
  rw [same y outside, List.mem_cons, or_iff_right other]

/-- The threads of a program inside another one settle there as they do alone. What stands behind
them is reached only if none of them accepts. -/
theorem Settles.embed {inner outer : Program} {address : Nat → Nat} {groups : Nat}
    (embeds : Embeds inner outer address groups) {place : Place} {pending left : List Thread}
    {visited : List Nat} (settles : Settles inner place pending visited left)
    (valid : ∀ thread ∈ pending, thread.address < inner.size)
    {others behind : List Thread} {seen : List Nat}
    (same : ∀ x < inner.size, address x ∈ seen ↔ x ∈ visited)
    (later : accepts inner left = false → ∀ seen',
      (∀ y, ¬ Inside inner address y → (y ∈ seen' ↔ y ∈ seen)) →
      Settles outer place others seen' behind) :
    Settles outer place (pending.map (Thread.map address groups) ++ others) seen
      (left.map (Thread.map address groups) ++ if accepts inner left then [] else behind) := by
  induction settles generalizing seen with
  | nil => exact later rfl seen (fun _ _ => Iff.rfl)
  | @seen thread _ _ _ again _ ih =>
    have small := valid thread List.mem_cons_self
    have rest := ih (fun t inside => valid t (List.mem_cons_of_mem _ inside)) same later
    exact .seen ((same _ small).mpr again) rest
  | @missing thread _ _ _ _ none _ _ =>
    have small := valid thread List.mem_cons_self
    rw [Array.getElem?_eq_getElem small] at none
    cases none
  | @wait thread _ left _ _ _ fresh step _ ih =>
    have small := valid thread List.mem_cons_self
    have waits : accepts inner (thread :: left) = accepts inner left := by
      simp [accepts, step]
    have rest := ih (fun t inside => valid t (List.mem_cons_of_mem _ inside))
      (mem_visited_iff embeds same small)
      (fun none seen' agree => later (waits.trans none) seen'
        (outside_visited step (by nofun) agree))
    rw [waits]
    exact .wait (fun again => fresh ((same _ small).mp again)) (embeds.steps step) rest
  | @follow thread pending left _ step fresh at_ silent _ ih =>
    have small := valid thread List.mem_cons_self
    have going : step ≠ .accept := by
      rintro rfl
      cases silent
    have closed : ∀ t ∈ step.branches place thread ++ pending, t.address < inner.size := by
      intro t inside
      rcases List.mem_append.mp inside with branch | old
      · exact embeds.closed at_ _ (branches_targets branch)
      · exact valid t (List.mem_cons_of_mem _ old)
    have rest := ih closed (mem_visited_iff embeds same small)
      (fun none seen' agree => later none seen' (outside_visited at_ going agree))
    rw [List.map_append, List.append_assoc, ← branches_map] at rest
    exact .follow (fun again => fresh ((same _ small).mp again)) (embeds.steps at_)
      (by rw [isSilent_map]; exact silent) rest
  | @accept thread _ _ fresh step =>
    have small := valid thread List.mem_cons_self
    have accepting : accepts inner [thread] = true := by
      simp [accepts, step]
    rw [accepting]
    exact .accept (fun again => fresh ((same _ small).mp again)) (embeds.steps step)

theorem Settles.valid {program : Program} {place : Place} {pending left : List Thread}
    {visited : List Nat} (settles : Settles program place pending visited left) :
    ∀ thread ∈ left, thread.address < program.size := by
  induction settles with
  | nil => nofun
  | seen _ _ ih | missing _ _ _ ih | follow _ _ _ _ ih => exact ih
  | wait _ step _ ih =>
    intro t inside
    rcases List.mem_cons.mp inside with rfl | inside
    · exact (Array.getElem?_eq_some_iff.mp step).1
    · exact ih t inside
  | accept _ step =>
    intro t inside
    rw [List.mem_singleton.mp inside]
    exact (Array.getElem?_eq_some_iff.mp step).1

/-! ## Running -/

section
variable {inner outer : Program} {address : Nat → Nat} {groups : Nat}

private theorem step_of_valid {program : Program} {entry : Nat} (valid : entry < program.size) :
    ∃ step, program[entry]? = some step :=
  ⟨_, Array.getElem?_eq_getElem valid⟩

theorem take_map (embeds : Embeds inner outer address groups) (c : Char) {threads : List Thread}
    (valid : ∀ thread ∈ threads, thread.address < inner.size) :
    take outer c (threads.map (Thread.map address groups)) =
      (take inner c threads).map (Thread.map address groups) := by
  unfold take
  rw [List.filterMap_map, List.map_filterMap]
  apply List.filterMap_congr
  intro thread inside
  obtain ⟨step, alone⟩ := step_of_valid (valid thread inside)
  unfold Function.comp Thread.take? Thread.map
  dsimp only
  rw [embeds.steps alone, alone]
  cases step with
  | one cls next =>
    unfold Step.map
    dsimp only
    split <;> rfl
  | _ => rfl

theorem take_valid {program : Program} (closed : ∀ {x : Nat} {step : Step},
      program[x]? = some step → ∀ y ∈ step.targets, y < program.size)
    (c : Char) (threads : List Thread) :
    ∀ thread ∈ take program c threads, thread.address < program.size := by
  intro thread inside
  obtain ⟨source, -, taken⟩ := List.mem_filterMap.mp inside
  unfold Thread.take? at taken
  split at taken
  · rename_i cls next step
    split at taken
    · cases taken
      exact closed step next (List.mem_singleton_self _)
    · cases taken
  · cases taken

theorem accepted?_map (embeds : Embeds inner outer address groups) (place : Place)
    {threads : List Thread} (valid : ∀ thread ∈ threads, thread.address < inner.size) :
    accepted? outer place (threads.map (Thread.map address groups)) =
      (accepted? inner place threads).map (Prod.map id (Marks.shift groups)) := by
  unfold accepted?
  induction threads with
  | nil => rfl
  | cons thread threads ih =>
    rw [List.map_cons, List.findSome?_cons, List.findSome?_cons,
      ih fun t inside => valid t (List.mem_cons_of_mem _ inside)]
    obtain ⟨step, alone⟩ := step_of_valid (valid thread List.mem_cons_self)
    unfold Thread.accepted?
    rw [show (thread.map address groups).address = address thread.address from rfl,
      embeds.steps alone, alone]
    cases step <;> rfl

end

theorem accepts_eq_isSome (program : Program) (place : Place) (threads : List Thread) :
    accepts program threads = (accepted? program place threads).isSome := by
  unfold accepts accepted?
  induction threads with
  | nil => rfl
  | cons thread threads ih =>
    rw [List.any_cons, List.findSome?_cons, ih]
    unfold Thread.accepted?
    cases program[thread.address]? with
    | none => rfl
    | some step => cases step <;> rfl

theorem run_nil (program : Program) (position : Nat) (before : Option Char) (rest : Text) :
    run program position before rest [] = none := by
  cases rest <;> rfl

theorem run_cons (program : Program) (position : Nat) (before : Option Char) (c : Char)
    (rest : Text) (threads : List Thread) :
    run program position before (c :: rest) threads =
      (run program (position + 1) (some c) rest
          (take program c (settled program ⟨position, before, c :: rest⟩ threads))).or
        (accepted? program ⟨position, before, c :: rest⟩
          (settled program ⟨position, before, c :: rest⟩ threads)) := by
  rw [run]
  split
  · rename_i none
    rw [none, run_nil, Option.none_or]
  · split
    · rename_i some
      rw [some, Option.some_or]
    · rename_i none
      rw [none, Option.none_or]

/-- What a run gives depends on the settled threads only. -/
theorem run_eq_of_settled {program : Program} {position : Nat} {before : Option Char} {rest : Text}
    {threads threads' : List Thread}
    (same : settled program ⟨position, before, rest⟩ threads =
      settled program ⟨position, before, rest⟩ threads') :
    run program position before rest threads = run program position before rest threads' := by
  cases rest with
  | nil =>
    rw [run, run, same]
  | cons c rest => rw [run_cons, run_cons, same]

section
variable {a b outer : Program} {addressA addressB : Nat → Nat} {groupsA groupsB : Nat}

/-- Two programs apart from each other in another one settle there one after the other. -/
theorem settles_either (embedsA : Embeds a outer addressA groupsA)
    (embedsB : Embeds b outer addressB groupsB)
    (apart : ∀ y, Inside a addressA y → ∀ x < b.size, addressB x ≠ y) (place : Place)
    {threadsA threadsB : List Thread} (validA : ∀ thread ∈ threadsA, thread.address < a.size)
    (validB : ∀ thread ∈ threadsB, thread.address < b.size) (seen : List Nat)
    (freshA : ∀ x < a.size, addressA x ∉ seen) (freshB : ∀ x < b.size, addressB x ∉ seen) :
    Settles outer place
      (threadsA.map (Thread.map addressA groupsA) ++ threadsB.map (Thread.map addressB groupsB))
      seen
      ((settled a place threadsA).map (Thread.map addressA groupsA) ++
        if accepts a (settled a place threadsA) then []
        else (settled b place threadsB).map (Thread.map addressB groupsB)) := by
  refine (settles_settled a place threadsA).embed embedsA validA
    (fun x small => by simp [freshA x small]) ?_
  intro _ seen' agree
  have unseen : ∀ x < b.size, addressB x ∈ seen' ↔ x ∈ [] := by
    intro x small
    have outside : ¬ Inside a addressA (addressB x) := fun inside => apart _ inside x small rfl
    simp [agree _ outside, freshB x small]
  have last : accepts b (settled b place threadsB) = false → ∀ seen'',
      (∀ y, ¬ Inside b addressB y → (y ∈ seen'' ↔ y ∈ seen')) →
      Settles outer place [] seen'' [] := fun _ _ _ => .nil
  have second := (settles_settled b place threadsB).embed embedsB validB unseen last
  simpa using second

private theorem accepted?_either (embedsA : Embeds a outer addressA groupsA)
    (embedsB : Embeds b outer addressB groupsB) (place : Place)
    {threadsA threadsB : List Thread} (validA : ∀ thread ∈ threadsA, thread.address < a.size)
    (validB : ∀ thread ∈ threadsB, thread.address < b.size) :
    accepted? outer place
        (threadsA.map (Thread.map addressA groupsA) ++
          if accepts a threadsA then [] else threadsB.map (Thread.map addressB groupsB)) =
      ((accepted? a place threadsA).map (Prod.map id (Marks.shift groupsA))).or
        ((accepted? b place threadsB).map (Prod.map id (Marks.shift groupsB))) := by
  have append (xs ys : List Thread) : accepted? outer place (xs ++ ys) =
      (accepted? outer place xs).or (accepted? outer place ys) := List.findSome?_append
  rw [append, accepted?_map embedsA place validA, accepts_eq_isSome a place]
  cases accepted? a place threadsA with
  | none => rw [← accepted?_map embedsB place validB]; rfl
  | some end_ => rfl

/-- Two programs apart from each other in another one give there what the first one gives alone, or
else what the second one gives. -/
theorem run_either (embedsA : Embeds a outer addressA groupsA)
    (embedsB : Embeds b outer addressB groupsB)
    (apart : ∀ y, Inside a addressA y → ∀ x < b.size, addressB x ≠ y) (rest : Text)
    (position : Nat) (before : Option Char) (threadsA threadsB : List Thread)
    (validA : ∀ thread ∈ threadsA, thread.address < a.size)
    (validB : ∀ thread ∈ threadsB, thread.address < b.size) :
    run outer position before rest
        (threadsA.map (Thread.map addressA groupsA) ++
          threadsB.map (Thread.map addressB groupsB)) =
      ((run a position before rest threadsA).map (Prod.map id (Marks.shift groupsA))).or
        ((run b position before rest threadsB).map (Prod.map id (Marks.shift groupsB))) := by
  induction rest generalizing position before threadsA threadsB with
  | nil =>
    have settling := (settles_settled outer ⟨position, before, []⟩ _).unique
      (settles_either embedsA embedsB apart _ validA validB [] (by simp) (by simp))
    rw [run, run, run, settling]
    exact accepted?_either embedsA embedsB _ (settles_settled a _ _).valid
      (settles_settled b _ _).valid
  | cons c rest ih =>
    have settling := (settles_settled outer ⟨position, before, c :: rest⟩ _).unique
      (settles_either embedsA embedsB apart _ validA validB [] (by simp) (by simp))
    have leftA := (settles_settled a ⟨position, before, c :: rest⟩ threadsA).valid
    have leftB := (settles_settled b ⟨position, before, c :: rest⟩ threadsB).valid
    have end_ := accepted?_either embedsA embedsB ⟨position, before, c :: rest⟩ leftA leftB
    rw [run_cons, run_cons, run_cons, settling, end_, Option.map_or, Option.map_or]
    have accepting := accepts_eq_isSome a ⟨position, before, c :: rest⟩
      (settled a ⟨position, before, c :: rest⟩ threadsA)
    cases found : accepted? a ⟨position, before, c :: rest⟩
        (settled a ⟨position, before, c :: rest⟩ threadsA) with
    | none =>
      rw [found] at accepting
      have onward := ih (position + 1) (some c) _ _
        (take_valid embedsA.closed c (settled a ⟨position, before, c :: rest⟩ threadsA))
        (take_valid embedsB.closed c (settled b ⟨position, before, c :: rest⟩ threadsB))
      have taken (xs ys : List Thread) :
          take outer c (xs ++ ys) = take outer c xs ++ take outer c ys := List.filterMap_append
      rw [accepting, if_neg (by simp), taken, take_map embedsA c leftA, take_map embedsB c leftB,
        onward, Option.map_none, Option.none_or, Option.or_none, Option.or_assoc]
    | some result =>
      rw [found] at accepting
      have onward := ih (position + 1) (some c) _ []
        (take_valid embedsA.closed c (settled a ⟨position, before, c :: rest⟩ threadsA)) (by nofun)
      rw [List.map_nil, List.append_nil, run_nil, Option.map_none, Option.or_none] at onward
      rw [accepting, Option.isSome_some, if_pos rfl, List.append_nil, take_map embedsA c leftA,
        onward, Option.map_some, Option.some_or, Option.or_assoc, Option.some_or]

end

end LocaleLint.Pattern
