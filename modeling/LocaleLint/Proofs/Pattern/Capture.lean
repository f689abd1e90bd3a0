import Mathlib
import LocaleLint.Proofs.Pattern.Relocation

/-!
# Groups that capture

A group that captures matches what its body matches, and notes where the match starts and stops.
-/

namespace LocaleLint.Pattern

/-- A match of the body of a group, with the marks of the group around those of the body. -/
def Match.enclose (index : Nat) (m : Match) : Match :=
  { m with marks := (2 * index + 1, m.stop) :: (m.marks ++ [(2 * index, m.start)]) }

/-- A program stands in a group of another one, one address further on: where it accepts, the group
is closed, and then the other one accepts. -/
structure Encloses (inner outer : Program) (slot leave : Nat) : Prop where
  steps : ∀ {x : Nat} {step : Step}, inner[x]? = some step → step ≠ .accept →
    outer[x + 1]? = some (step.map (· + 1) 0)
  closes : ∀ {x : Nat}, inner[x]? = some .accept → outer[x + 1]? = some (.mark slot leave)
  accepts : outer[leave]? = some .accept
  closed : ∀ {x : Nat} {step : Step}, inner[x]? = some step → ∀ y ∈ step.targets, y < inner.size
  beyond : inner.size < leave

/-- A thread of a program in a group, where the group was opened with a mark. -/
def Thread.inGroup (opened : Nat × Nat) (thread : Thread) : Thread :=
  ⟨thread.address + 1, thread.marks ++ [opened]⟩

/-- A settled thread of a program in a group: if it accepts, the group is closed behind it. -/
def Thread.behindGroup (inner : Program) (slot leave : Nat) (place : Place) (opened : Nat × Nat)
    (thread : Thread) : Thread :=
  match inner[thread.address]? with
  | some .accept => ⟨leave, (slot, place.position) :: (thread.marks ++ [opened])⟩
  | _ => thread.inGroup opened

theorem branches_inGroup (opened : Nat × Nat) (place : Place) (thread : Thread) (step : Step) :
    (step.map (· + 1) 0).branches place (thread.inGroup opened) =
      (step.branches place thread).map (Thread.inGroup opened) := by
  cases step with
  | look condition next =>
    unfold Step.map Step.branches
    dsimp only
    split <;> rfl
  | _ => rfl

section
variable {inner outer : Program} {slot leave : Nat}

private theorem behindGroup_of_ne_accept {place : Place} {opened : Nat × Nat} {thread : Thread}
    {step : Step} (at_ : inner[thread.address]? = some step) (going : step ≠ .accept) :
    thread.behindGroup inner slot leave place opened = thread.inGroup opened := by
  rw [Thread.behindGroup, at_]
  cases step with
  | accept => exact absurd rfl going
  | _ => rfl

private theorem behindGroup_of_accept {place : Place} {opened : Nat × Nat} {thread : Thread}
    (at_ : inner[thread.address]? = some .accept) :
    thread.behindGroup inner slot leave place opened =
      ⟨leave, (slot, place.position) :: (thread.marks ++ [opened])⟩ := by
  rw [Thread.behindGroup, at_]

/-- The threads of a program in a group settle as they do alone, and close the group where they
accept. -/
theorem Settles.enclose (encloses : Encloses inner outer slot leave) {place : Place}
    {pending left : List Thread} {visited : List Nat}
    (settles : Settles inner place pending visited left)
    (valid : ∀ thread ∈ pending, thread.address < inner.size) (opened : Nat × Nat) {seen : List Nat}
    (same : ∀ x < inner.size, x + 1 ∈ seen ↔ x ∈ visited) (fresh : leave ∉ seen) :
    Settles outer place (pending.map (Thread.inGroup opened)) seen
      (left.map (Thread.behindGroup inner slot leave place opened)) := by
  have beyond := encloses.beyond
  have visit {entry : Nat} {visited seen : List Nat}
      (same : ∀ x < inner.size, x + 1 ∈ seen ↔ x ∈ visited) :
      ∀ x < inner.size, x + 1 ∈ (entry + 1) :: seen ↔ x ∈ entry :: visited := by
    intro x small
    rw [List.mem_cons, List.mem_cons, same x small, Nat.add_right_cancel_iff]
  have unseen {entry : Nat} {seen : List Nat} (small : entry < inner.size) (fresh : leave ∉ seen) :
      leave ∉ (entry + 1) :: seen := by
    rw [List.mem_cons, not_or]
    exact ⟨by omega, fresh⟩
  induction settles generalizing seen with
  | nil => exact .nil
  | @seen thread _ _ _ again _ ih =>
    have small := valid thread List.mem_cons_self
    exact .seen ((same _ small).mpr again)
      (ih (fun t inside => valid t (List.mem_cons_of_mem _ inside)) same fresh)
  | @missing thread _ _ _ _ none _ _ =>
    rw [Array.getElem?_eq_getElem (valid thread List.mem_cons_self)] at none
    cases none
  | @wait thread _ _ _ _ _ new step _ ih =>
    have small := valid thread List.mem_cons_self
    rw [List.map_cons, List.map_cons, behindGroup_of_ne_accept step (by nofun)]
    exact .wait (fun again => new ((same _ small).mp again)) (encloses.steps step (by nofun))
      (ih (fun t inside => valid t (List.mem_cons_of_mem _ inside)) (visit same)
        (unseen small fresh))
  | @follow thread pending _ _ step new at_ silent _ ih =>
    have small := valid thread List.mem_cons_self
    have going : step ≠ .accept := by
      rintro rfl
      cases silent
    have closed : ∀ t ∈ step.branches place thread ++ pending, t.address < inner.size := by
      intro t inside
      rcases List.mem_append.mp inside with branch | old
      · exact encloses.closed at_ _ (branches_targets branch)
      · exact valid t (List.mem_cons_of_mem _ old)
    have rest := ih closed (visit same) (unseen small fresh)
    rw [List.map_append, ← branches_inGroup] at rest
    exact .follow (fun again => new ((same _ small).mp again)) (encloses.steps at_ going)
      (by rw [isSilent_map]; exact silent) rest
  | @accept thread _ _ new step =>
    have small := valid thread List.mem_cons_self
    rw [List.map_cons, List.map_singleton, behindGroup_of_accept step]
    refine .follow (fun again => new ((same _ small).mp again)) (encloses.closes step) rfl ?_
    exact .accept (unseen small fresh) encloses.accepts

private theorem settled_enclose (encloses : Encloses inner outer slot leave) (place : Place)
    {threads : List Thread} (valid : ∀ thread ∈ threads, thread.address < inner.size)
    (opened : Nat × Nat) :
    settled outer place (threads.map (Thread.inGroup opened)) =
      (settled inner place threads).map (Thread.behindGroup inner slot leave place opened) :=
  (settles_settled _ _ _).unique ((settles_settled inner place threads).enclose encloses valid
    opened (by simp) (by simp))

private theorem take_enclose (encloses : Encloses inner outer slot leave) (c : Char) (place : Place)
    {threads : List Thread} (valid : ∀ thread ∈ threads, thread.address < inner.size)
    (opened : Nat × Nat) :
    take outer c (threads.map (Thread.behindGroup inner slot leave place opened)) =
      (take inner c threads).map (Thread.inGroup opened) := by
  unfold take
  rw [List.filterMap_map, List.map_filterMap]
  apply List.filterMap_congr
  intro thread inside
  obtain ⟨step, at_⟩ : ∃ step, inner[thread.address]? = some step :=
    ⟨_, Array.getElem?_eq_getElem (valid thread inside)⟩
  rw [Function.comp_apply]
  by_cases final : step = .accept
  · subst final
    rw [behindGroup_of_accept at_, Thread.take?, Thread.take?, at_]
    dsimp only
    rw [encloses.accepts]
    rfl
  · rw [behindGroup_of_ne_accept at_ final, Thread.take?, Thread.take?, at_, Thread.inGroup]
    dsimp only
    rw [encloses.steps at_ final]
    cases step with
    | one cls next =>
      unfold Step.map
      dsimp only
      split <;> rfl
    | _ => rfl

/-- The end of a match in a group: the marks of the group are around those of the match. -/
private def around (slot : Nat) (opened : Nat × Nat) (result : Nat × Marks) : Nat × Marks :=
  (result.1, (slot, result.1) :: (result.2 ++ [opened]))

private theorem accepted?_enclose (encloses : Encloses inner outer slot leave) (place : Place)
    {threads : List Thread} (valid : ∀ thread ∈ threads, thread.address < inner.size)
    (opened : Nat × Nat) :
    accepted? outer place (threads.map (Thread.behindGroup inner slot leave place opened)) =
      (accepted? inner place threads).map (around slot opened) := by
  unfold accepted?
  induction threads with
  | nil => rfl
  | cons thread threads ih =>
    rw [List.map_cons, List.findSome?_cons, List.findSome?_cons,
      ih fun t inside => valid t (List.mem_cons_of_mem _ inside)]
    obtain ⟨step, at_⟩ : ∃ step, inner[thread.address]? = some step :=
      ⟨_, Array.getElem?_eq_getElem (valid thread List.mem_cons_self)⟩
    by_cases final : step = .accept
    · subst final
      rw [behindGroup_of_accept at_, Thread.accepted?, Thread.accepted?, at_]
      dsimp only
      rw [encloses.accepts]
      rfl
    · rw [behindGroup_of_ne_accept at_ final, Thread.accepted?, Thread.accepted?, at_,
        Thread.inGroup]
      dsimp only
      rw [encloses.steps at_ final]
      cases step with
      | accept => exact absurd rfl final
      | _ => rfl

/-- A program in a group runs there as it does alone. -/
theorem run_enclose (encloses : Encloses inner outer slot leave) (opened : Nat × Nat)
    (rest : Text) (position : Nat) (before : Option Char) {threads : List Thread}
    (valid : ∀ thread ∈ threads, thread.address < inner.size) :
    run outer position before rest (threads.map (Thread.inGroup opened)) =
      (run inner position before rest threads).map (around slot opened) := by
  induction rest generalizing position before threads with
  | nil =>
    rw [run, run, settled_enclose encloses _ valid,
      accepted?_enclose encloses _ (settles_settled inner _ _).valid]
  | cons c rest ih =>
    have left := (settles_settled inner ⟨position, before, c :: rest⟩ threads).valid
    have going := take_valid encloses.closed c (settled inner ⟨position, before, c :: rest⟩ threads)
    rw [run_cons, run_cons, settled_enclose encloses _ valid, take_enclose encloses c _ left,
      accepted?_enclose encloses _ left, ih _ _ going, Option.map_or]

end

namespace Regex

private theorem program_capture (index : Nat) (body : Regex) :
    (capture index body).program = (.mark (2 * index) 1 :: (body.code 1 (1 + body.size) ++
      [.mark (2 * index + 1) (body.size + 2), .accept])).toArray := by
  simp [program, code, size]

private theorem encloses_capture (index : Nat) (body : Regex) :
    Encloses body.program (capture index body).program (2 * index + 1) (body.size + 2) where
  steps := by
    intro x step at_ going
    have small : x < body.size := by
      by_contra large
      rw [program_getElem?, if_neg large] at at_
      split at at_
      · cases at_
        exact going rfl
      · cases at_
    have moved := body.map_code (· + 1) 0 0 body.size 1 fun i _ => by omega
    rw [shift_zero, Nat.add_comm body.size] at moved
    rw [program_getElem?, if_pos small] at at_
    rw [program_capture, List.getElem?_toArray, List.getElem?_cons_succ,
      List.getElem?_append_left (by rwa [length_code]), ← moved, List.getElem?_map, at_]
    rfl
  closes := by
    intro x at_
    have last : x = body.size := by
      rw [program_getElem?] at at_
      split at at_
      · exact absurd (List.mem_of_getElem? at_) (body.accept_notMem_code _ _)
      · split at at_
        · assumption
        · cases at_
    subst last
    simp [program_capture]
  accepts := by
    rw [program_capture, List.getElem?_toArray, List.getElem?_cons_succ,
      List.getElem?_append_right (by simp)]
    simp
  closed := body.targets_program
  beyond := by
    rw [size_program]
    omega

end Regex

/-- A group that captures matches as its body does. -/
theorem matchAt_capture (index : Nat) (body : Regex) (place : Place) :
    matchAt (Regex.capture index body).program place =
      (matchAt body.program place).map (Match.enclose index) := by
  have encloses := Regex.encloses_capture index body
  have valid : ∀ thread ∈ [Thread.mk 0 []], thread.address < body.program.size := by
    simp [Regex.size_program]
  have opens : (Regex.capture index body).program[0]? = some (.mark (2 * index) 1) := by
    simp [Regex.program_capture]
  -- The first step opens the group and goes on to the body.
  have entered : settled (Regex.capture index body).program place [⟨0, []⟩] =
      settled (Regex.capture index body).program place
        ([Thread.mk 0 []].map (Thread.inGroup (2 * index, place.position))) := by
    rw [settled_enclose encloses place valid]
    refine (settles_settled _ _ _).unique (.follow (by simp) opens rfl ?_)
    exact (settles_settled body.program place [⟨0, []⟩]).enclose encloses valid _ (by simp)
      (by simp)
  have ran := run_enclose encloses (2 * index, place.position) place.rest place.position
    place.before valid
  rw [← run_eq_of_settled entered] at ran
  rw [matchAt, matchAt, ran, Option.map_map, Option.map_map]
  rfl

end LocaleLint.Pattern
