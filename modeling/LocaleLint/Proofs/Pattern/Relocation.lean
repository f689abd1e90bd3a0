import Mathlib
import LocaleLint.Proofs.Pattern.Machine

/-!
# Moving regular expressions

A regular expression whose groups are numbered later finds the same matches, with the marks moved
along. A choice between regular expressions matches at a place as the first of them that matches
there does alone.
-/

namespace LocaleLint.Pattern

namespace Regex

/-- A regular expression with later numbers for its groups. -/
def shift (groups : Nat) : Regex → Regex
  | empty => empty
  | one cls => one cls
  | look condition => look condition
  | capture index body => capture (index + groups) (body.shift groups)
  | seq first second => seq (first.shift groups) (second.shift groups)
  | alt first second => alt (first.shift groups) (second.shift groups)
  | optional greedy body => optional greedy (body.shift groups)
  | plus greedy body => plus greedy (body.shift groups)

@[simp] theorem size_shift (r : Regex) (groups : Nat) : (r.shift groups).size = r.size := by
  induction r with
  | empty => rfl
  | one _ => rfl
  | look _ => rfl
  | capture _ _ ih => simp [shift, size, ih]
  | seq _ _ ih₁ ih₂ => simp [shift, size, ih₁, ih₂]
  | alt _ _ ih₁ ih₂ => simp [shift, size, ih₁, ih₂]
  | optional _ _ ih => simp [shift, size, ih]
  | plus _ _ ih => simp [shift, size, ih]

theorem size_pos (r : Regex) : 0 < r.size := by
  induction r with
  | empty => exact Nat.one_pos
  | one _ => exact Nat.one_pos
  | look _ => exact Nat.one_pos
  | capture _ _ ih | optional _ _ ih | plus _ _ ih => exact Nat.add_pos_left ih _
  | seq _ _ ih₁ ih₂ => exact Nat.add_pos_left ih₁ _
  | alt _ _ ih₁ ih₂ => exact Nat.succ_pos _

private theorem map_forkTo (address : Nat → Nat) (groups : Nat) (greedy : Bool) (again next : Nat) :
    (forkTo greedy again next).map address groups =
      forkTo greedy (address again) (address next) := by
  cases greedy <;> rfl

/-- The steps of an expression are the same wherever they stand. -/
theorem map_code (r : Regex) (address : Nat → Nat) (groups base next base' : Nat)
    (moves : ∀ i < r.size, address (base + i) = base' + i) :
    (r.code base next).map (Step.map address groups) =
      (r.shift groups).code base' (address next) := by
  induction r generalizing base next base' with
  | empty => rfl
  | one _ => rfl
  | look _ => rfl
  | capture index body ih =>
    have size : (capture index body).size = body.size + 2 := rfl
    have entry : address (base + 1) = base' + 1 := moves 1 (by omega)
    have leave : address (base + 1 + body.size) = base' + 1 + body.size := by
      rw [Nat.add_assoc, moves _ (by omega), Nat.add_assoc]
    have inside := ih (base + 1) (base + 1 + body.size) (base' + 1)
      fun i small => by rw [Nat.add_assoc, moves _ (by omega), Nat.add_assoc]
    have opens : 2 * (index + groups) = 2 * index + 2 * groups := Nat.mul_add ..
    have closes : 2 * index + 2 * groups + 1 = 2 * index + 1 + 2 * groups := by omega
    simp only [code, shift, List.map_cons, List.map_append, List.map_nil, Step.map, entry, inside,
      leave, size_shift, opens, closes]
  | seq first second ih₁ ih₂ =>
    have size : (seq first second).size = first.size + second.size := rfl
    have positive := second.size_pos
    have inside := ih₁ base (base + first.size) base' fun i small => moves i (by omega)
    have behind := ih₂ (base + first.size) next (base' + first.size)
      fun i small => by rw [Nat.add_assoc, moves _ (by omega), Nat.add_assoc]
    simp only [code, shift, List.map_append, inside, behind, moves first.size (by omega),
      size_shift]
  | alt first second ih₁ ih₂ =>
    have size : (alt first second).size = first.size + second.size + 1 := rfl
    have positive := second.size_pos
    have entry : address (base + 1) = base' + 1 := moves 1 (by omega)
    have other : address (base + 1 + first.size) = base' + 1 + first.size := by
      rw [Nat.add_assoc, moves _ (by omega), Nat.add_assoc]
    have inside := ih₁ (base + 1) next (base' + 1) fun i small => by
      rw [Nat.add_assoc, moves _ (by omega), Nat.add_assoc]
    have behind := ih₂ (base + 1 + first.size) next (base' + 1 + first.size)
      fun i small => by
        rw [Nat.add_assoc, Nat.add_assoc, moves _ (by omega), Nat.add_assoc, Nat.add_assoc]
    simp only [code, shift, List.map_cons, List.map_append, Step.map, entry, other, inside, behind,
      size_shift]
  | optional greedy body ih =>
    have size : (optional greedy body).size = body.size + 1 := rfl
    have positive := body.size_pos
    have entry : address (base + 1) = base' + 1 := moves 1 (by omega)
    have inside := ih (base + 1) next (base' + 1) fun i small => by
      rw [Nat.add_assoc, moves _ (by omega), Nat.add_assoc]
    simp only [code, shift, List.map_cons, map_forkTo, entry, inside]
  | plus greedy body ih =>
    have size : (plus greedy body).size = body.size + 1 := rfl
    have entry : address base = base' := moves 0 (by omega)
    have inside := ih base (base + body.size) base' fun i small => moves i (by omega)
    simp only [code, shift, List.map_append, List.map_cons, List.map_nil, map_forkTo, entry, inside,
      moves body.size (by omega), size_shift]

private theorem targets_forkTo {greedy : Bool} {again next y : Nat}
    (inside : y ∈ (forkTo greedy again next).targets) : y = again ∨ y = next := by
  cases greedy with
  | true => exact List.mem_pair.mp inside
  | false => exact (List.mem_pair.mp inside).symm

/-- The steps of an expression go on to each other or to what follows. -/
theorem targets_code (r : Regex) {base next : Nat} {step : Step} (inside : step ∈ r.code base next)
    {y : Nat} (goes : y ∈ step.targets) : y = next ∨ (base ≤ y ∧ y < base + r.size) := by
  induction r generalizing base next with
  | empty | one _ | look _ =>
    rw [List.mem_singleton.mp inside] at goes
    exact .inl (List.mem_singleton.mp goes)
  | capture index body ih =>
    have size : (capture index body).size = body.size + 2 := rfl
    rw [code, List.mem_cons, List.mem_append, List.mem_singleton] at inside
    rcases inside with rfl | inside | rfl
    · have := List.mem_singleton.mp goes
      omega
    · have := ih inside
      omega
    · exact .inl (List.mem_singleton.mp goes)
  | seq first second ih₁ ih₂ =>
    have size : (seq first second).size = first.size + second.size := rfl
    have positive := second.size_pos
    rw [code, List.mem_append] at inside
    rcases inside with inside | inside
    · have := ih₁ inside
      omega
    · have := ih₂ inside
      omega
  | alt first second ih₁ ih₂ =>
    have size : (alt first second).size = first.size + second.size + 1 := rfl
    have positive := second.size_pos
    rw [code, List.mem_cons, List.mem_append] at inside
    rcases inside with rfl | inside | inside
    · have := List.mem_pair.mp goes
      omega
    · have := ih₁ inside
      omega
    · have := ih₂ inside
      omega
  | optional greedy body ih =>
    have size : (optional greedy body).size = body.size + 1 := rfl
    have positive := body.size_pos
    rw [code, List.mem_cons] at inside
    rcases inside with rfl | inside
    · have := targets_forkTo goes
      omega
    · have := ih inside
      omega
  | plus greedy body ih =>
    have size : (plus greedy body).size = body.size + 1 := rfl
    rw [code, List.mem_append, List.mem_singleton] at inside
    rcases inside with inside | rfl
    · have := ih inside
      omega
    · have := targets_forkTo goes
      omega

/-- No step of a regular expression accepts. -/
theorem accept_notMem_code (r : Regex) (base next : Nat) : Step.accept ∉ r.code base next := by
  have fork (greedy : Bool) (again next : Nat) : Step.accept ≠ forkTo greedy again next := by
    cases greedy <;> nofun
  induction r generalizing base next with
  | empty | one _ | look _ => simp [code]
  | capture _ _ ih => simp [code, ih]
  | seq _ _ ih₁ ih₂ | alt _ _ ih₁ ih₂ => simp [code, ih₁, ih₂]
  | optional _ _ ih | plus _ _ ih => simp [code, ih, fork]

theorem shift_zero (r : Regex) : r.shift 0 = r := by
  induction r with
  | empty => rfl
  | one _ => rfl
  | look _ => rfl
  | capture _ _ ih => rw [shift, ih, Nat.add_zero]
  | seq _ _ ih₁ ih₂ => rw [shift, ih₁, ih₂]
  | alt _ _ ih₁ ih₂ => rw [shift, ih₁, ih₂]
  | optional _ _ ih => rw [shift, ih]
  | plus _ _ ih => rw [shift, ih]

theorem shift_seqs (groups : Nat) (rs : List Regex) :
    (seqs rs).shift groups = seqs (rs.map (shift groups)) := by
  induction rs with
  | nil => rfl
  | cons r rest ih =>
    cases rest with
    | nil => rfl
    | cons next rest => exact congrArg (seq _) ih

theorem shift_alts (groups : Nat) (rs : List Regex) :
    (alts rs).shift groups = alts (rs.map (shift groups)) := by
  induction rs with
  | nil => rfl
  | cons r rest ih =>
    cases rest with
    | nil => rfl
    | cons next rest => exact congrArg (alt _) ih

theorem shift_times (groups : Nat) (r : Regex) (count : Nat) :
    (times r count).shift groups = times (r.shift groups) count := by
  rw [times, shift_seqs, List.map_replicate, times]

theorem shift_upTo (groups : Nat) (greedy : Bool) (r : Regex) (count : Nat) :
    (upTo greedy r count).shift groups = upTo greedy (r.shift groups) count := by
  induction count with
  | zero => rfl
  | succ count ih =>
    cases count with
    | zero => rfl
    | succ count =>
      have round (r : Regex) : upTo greedy r (count + 2) =
          optional greedy (seq r (upTo greedy r (count + 1))) := rfl
      rw [round, round, shift, shift, ih]

theorem shift_rounds (groups least : Nat) (most : Option Nat) (greedy : Bool) (r : Regex) :
    (rounds least most greedy r).shift groups = rounds least most greedy (r.shift groups) := by
  unfold rounds
  split
  · rfl
  · rfl
  · rw [shift, shift_times]
    rfl
  · split
    · exact shift_times ..
    · split
      · exact shift_upTo ..
      · rw [shift, shift_times, shift_upTo]

theorem size_program (r : Regex) : r.program.size = r.size + 1 := by
  simp [program]

theorem program_getElem? (r : Regex) (x : Nat) :
    r.program[x]? = if x < r.size then (r.code 0 r.size)[x]?
      else if x = r.size then some .accept else none := by
  unfold program
  rw [List.getElem?_toArray]
  by_cases small : x < r.size
  · rw [if_pos small, List.getElem?_append_left (by rwa [length_code])]
  · rw [if_neg small, List.getElem?_append_right (by rw [length_code]; omega), length_code]
    by_cases last : x = r.size
    · rw [if_pos last, last, Nat.sub_self]
      rfl
    · rw [if_neg last]
      exact List.getElem?_eq_none (by simp only [List.length_singleton]; omega)

/-- The steps of a program go on to steps of the program. -/
theorem targets_program (r : Regex) {x : Nat} {step : Step} (at_ : r.program[x]? = some step) :
    ∀ y ∈ step.targets, y < r.program.size := by
  intro y goes
  rw [size_program]
  rw [program_getElem?] at at_
  split at at_
  · have := r.targets_code (List.mem_of_getElem? at_) goes
    omega
  · split at at_
    · cases at_
      cases goes
    · cases at_

/-- The program of an expression stands wherever the steps of the expression do, if those go on to
an accepting step. -/
theorem embeds_program (r : Regex) (groups next : Nat) (address : Nat → Nat)
    (before after : List Step) (here : ∀ x < r.size, address x = before.length + x)
    (last : address r.size = next)
    (accepting : (before ++ ((r.shift groups).code before.length next ++ after))[next]? =
      some .accept)
    (apart : ∀ x < r.size, before.length + x ≠ next) :
    Embeds r.program (before ++ ((r.shift groups).code before.length next ++ after)).toArray
      address groups where
  steps := by
    intro x step at_
    rw [program_getElem?] at at_
    rw [List.getElem?_toArray]
    have moved := r.map_code address groups 0 r.size before.length
      fun i small => by rw [Nat.zero_add, here i small]
    rw [last] at moved
    split at at_
    · rename_i small
      rw [here x small, List.getElem?_append_right (Nat.le_add_right ..), Nat.add_sub_cancel_left,
        List.getElem?_append_left (by rwa [length_code, size_shift]), ← moved, List.getElem?_map,
        at_]
      rfl
    · split at at_
      · rename_i final
        cases at_
        rw [final, last]
        exact accepting
      · cases at_
  closed := r.targets_program
  injective := by
    intro x y smallX smallY same
    rw [size_program] at smallX smallY
    rcases Nat.lt_succ_iff_lt_or_eq.mp smallX with smallX | rfl <;>
      rcases Nat.lt_succ_iff_lt_or_eq.mp smallY with smallY | rfl
    · rw [here x smallX, here y smallY] at same
      omega
    · rw [here x smallX, last] at same
      exact absurd same (apart x smallX)
    · rw [here y smallY, last] at same
      exact absurd same.symm (apart y smallY)
    · rfl

end Regex

/-- A match whose groups are numbered later. -/
def Match.shift (groups : Nat) (m : Match) : Match := { m with marks := m.marks.shift groups }

private theorem embeds_empty (outer : Program) : Embeds #[] outer id 0 where
  steps := by simp
  closed := by simp
  injective := by simp

private theorem map_matchAt (program : Program) (groups : Nat) (place : Place) :
    (matchAt program place).map (Match.shift groups) =
      ((run program place.position place.before place.rest [⟨0, []⟩]).map
        (Prod.map id (Marks.shift groups))).map
        fun (stop, marks) => ⟨place.position, stop, marks⟩ := by
  unfold matchAt
  rw [Option.map_map, Option.map_map]
  rfl

/-- With later numbers for its groups, a regular expression has the same matches. -/
theorem matchAt_shift (r : Regex) (groups : Nat) (place : Place) :
    matchAt (r.shift groups).program place =
      (matchAt r.program place).map (Match.shift groups) := by
  have embeds := r.embeds_program groups r.size id [] [.accept] (by simp) rfl (by simp)
    (by simp; omega)
  have same := run_either embeds (embeds_empty _) (by simp) place.rest place.position place.before
    [⟨0, []⟩] [] (by simp [Regex.size_program]) (by simp)
  rw [run_nil, Option.map_none, Option.or_none] at same
  rw [map_matchAt, ← same, matchAt, Regex.program, Regex.size_shift]
  rfl

section
variable (a b : Regex) (groupsA groupsB : Nat)

/-- Where a step of the first of two expressions stands in the choice between them. -/
def Regex.firstAddress (x : Nat) : Nat := if x < a.size then 1 + x else a.size + b.size + 1

/-- Where a step of the second of two expressions stands in the choice between them. -/
def Regex.secondAddress (x : Nat) : Nat := 1 + a.size + x

private theorem program_alt : (Regex.alt (a.shift groupsA) (b.shift groupsB)).program =
    (Step.fork 1 (1 + a.size) :: ((a.shift groupsA).code 1 (a.size + b.size + 1) ++
      (b.shift groupsB).code (1 + a.size) (a.size + b.size + 1)) ++ [Step.accept]).toArray := by
  simp [Regex.program, Regex.code, Regex.size]

private theorem program_alt_last :
    (Step.fork 1 (1 + a.size) :: ((a.shift groupsA).code 1 (a.size + b.size + 1) ++
      (b.shift groupsB).code (1 + a.size) (a.size + b.size + 1)) ++
        [Step.accept])[a.size + b.size + 1]? = some .accept := by
  rw [List.getElem?_append_right (by simp)]
  simp

private theorem embeds_first : Embeds a.program
    (Regex.alt (a.shift groupsA) (b.shift groupsB)).program (Regex.firstAddress a b) groupsA := by
  have last := program_alt_last a b groupsA groupsB
  rw [program_alt]
  rw [List.cons_append, List.append_assoc] at last ⊢
  refine a.embeds_program groupsA _ _ [.fork 1 (1 + a.size)] _ ?_ ?_ last ?_
  · intro x small
    exact if_pos small
  · exact if_neg (Nat.lt_irrefl _)
  · intro x small
    rw [List.length_singleton]
    omega

private theorem embeds_second : Embeds b.program
    (Regex.alt (a.shift groupsA) (b.shift groupsB)).program (Regex.secondAddress a) groupsB := by
  have last := program_alt_last a b groupsA groupsB
  have length : (Step.fork 1 (1 + a.size) ::
      (a.shift groupsA).code 1 (a.size + b.size + 1)).length = 1 + a.size := by
    simp [Nat.add_comm]
  rw [program_alt]
  rw [← List.cons_append, List.append_assoc] at last ⊢
  have embeds := b.embeds_program groupsB (a.size + b.size + 1) (Regex.secondAddress a)
    (.fork 1 (1 + a.size) :: (a.shift groupsA).code 1 (a.size + b.size + 1)) [.accept]
  rw [length] at embeds
  refine embeds (fun x _ => rfl) ?_ last ?_
  · unfold Regex.secondAddress
    omega
  · omega

private theorem second_outside_first {y : Nat}
    (inside : Inside a.program (Regex.firstAddress a b) y) :
    ∀ x < b.program.size, Regex.secondAddress a x ≠ y := by
  obtain ⟨z, step, at_, going, rfl⟩ := inside
  have small : z < a.size := by
    rw [Regex.program_getElem?] at at_
    by_contra large
    rw [if_neg large] at at_
    split at at_
    · cases at_
      exact going rfl
    · cases at_
  intro x _
  unfold Regex.firstAddress Regex.secondAddress
  rw [if_pos small]
  omega

/-- A choice begins as both of its branches do. -/
private theorem run_alt (place : Place) :
    run (Regex.alt (a.shift groupsA) (b.shift groupsB)).program place.position place.before
        place.rest [⟨0, []⟩] =
      run (Regex.alt (a.shift groupsA) (b.shift groupsB)).program place.position place.before
        place.rest ([⟨Regex.firstAddress a b 0, []⟩] ++ [⟨Regex.secondAddress a 0, []⟩]) := by
  have validA : ∀ thread ∈ [Thread.mk 0 []], thread.address < a.program.size := by
    simp [Regex.size_program]
  have validB : ∀ thread ∈ [Thread.mk 0 []], thread.address < b.program.size := by
    simp [Regex.size_program]
  have settles := settles_either (embeds_first a b groupsA groupsB)
    (embeds_second a b groupsA groupsB) (fun y => second_outside_first a b) place validA validB
  have fork : (Regex.alt (a.shift groupsA) (b.shift groupsB)).program[0]? =
      some (.fork 1 (1 + a.size)) := by
    simp [program_alt]
  have entry : Regex.firstAddress a b 0 = 1 := if_pos a.size_pos
  apply run_eq_of_settled
  refine .trans ?_ ((settles_settled _ place _).unique (settles [] (by simp) (by simp))).symm
  refine (settles_settled _ place _).unique
    (.follow (by simp) fork rfl ?_)
  have behind := settles [0]
    (fun x _ => by unfold Regex.firstAddress; split <;> simp)
    (fun x _ => by unfold Regex.secondAddress; simp)
  simpa [Step.branches, Thread.map, Marks.shift, entry, Regex.secondAddress] using behind

/-- A choice between two regular expressions matches as the first one, or else as the second one;
their groups may be numbered later. -/
theorem matchAt_alt (place : Place) :
    matchAt (Regex.alt (a.shift groupsA) (b.shift groupsB)).program place =
      ((matchAt a.program place).map (Match.shift groupsA)).or
        ((matchAt b.program place).map (Match.shift groupsB)) := by
  have either := run_either (embeds_first a b groupsA groupsB)
    (embeds_second a b groupsA groupsB) (fun y => second_outside_first a b)
    place.rest place.position place.before [⟨0, []⟩] [⟨0, []⟩]
    (by simp [Regex.size_program]) (by simp [Regex.size_program])
  rw [map_matchAt, map_matchAt, ← Option.map_or, ← either, matchAt, run_alt]
  rfl

end

@[simp] theorem Marks.shift_zero (marks : Marks) : marks.shift 0 = marks := by
  simp [Marks.shift]

@[simp] theorem Match.shift_zero (m : Match) : m.shift 0 = m := by
  rw [Match.shift, Marks.shift_zero]

/-- A choice between regular expressions matches as the first of them that matches. -/
theorem matchAt_alts {branches : List (Nat × Regex)} (some : branches ≠ []) (place : Place) :
    matchAt (Regex.alts (branches.map fun branch => branch.2.shift branch.1)).program place =
      branches.findSome? fun branch =>
        (matchAt branch.2.program place).map (Match.shift branch.1) := by
  induction branches with
  | nil => exact absurd rfl some
  | cons branch rest ih =>
    rw [List.findSome?_cons]
    cases rest with
    | nil =>
      rw [List.map_singleton, Regex.alts, matchAt_shift, List.findSome?_nil]
      cases matchAt branch.2.program place <;> rfl
    | cons next rest =>
      have later := ih (List.cons_ne_nil _ _)
      have either := matchAt_alt branch.2
        (Regex.alts ((next :: rest).map fun branch => branch.2.shift branch.1)) branch.1 0 place
      rw [Regex.shift_zero, later, show Match.shift 0 = id from funext Match.shift_zero,
        Option.map_id_fun, id_eq] at either
      refine .trans either ?_
      cases matchAt branch.2.program place <;> rfl

end LocaleLint.Pattern
