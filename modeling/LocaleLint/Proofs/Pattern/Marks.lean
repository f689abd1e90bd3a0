import Mathlib
import LocaleLint.Proofs.Pattern.Language

/-!
# The marks of a match

What all steps of a program keep holds along its ways, so it holds of the thread that accepts. A
match then marks only groups of its expression and only positions in it, and no group stops before
it starts: once a group is open, a program accepts only after it has closed it.
-/

namespace LocaleLint.Pattern

/-- All steps of a program keep a property of threads at positions. -/
structure Kept (program : Program) (P : Nat → Thread → Prop) : Prop where
  silent : ∀ {place : Place} {thread next : Thread} {step : Step}, P place.position thread →
    program[thread.address]? = some step → next ∈ step.branches place thread →
      P place.position next
  one : ∀ {position next : Nat} {thread : Thread} {cls : Unicode.CharClass}, P position thread →
    program[thread.address]? = some (.one cls next) →
      P (position + 1) { thread with address := next }

namespace Kept

variable {program : Program} {P : Nat → Thread → Prop} (kept : Kept program P)
include kept

/-- What all steps keep holds along a way. -/
theorem way {count x z : Nat} {p q : Place} {noted marks : Marks}
    (way : Way program count p x q z noted) (start : P p.position ⟨x, marks⟩) :
    P q.position ⟨z, noted ++ marks⟩ := by
  induction way generalizing marks with
  | stay => exact start
  | one at_ _ _ ih => exact ih (kept.one start at_)
  | silent at_ branch _ ih =>
    rw [List.append_assoc]
    refine ih (kept.silent start at_ ?_)
    rw [branches_eq_map]
    exact List.mem_map.mpr ⟨_, branch, rfl⟩

/-- What all steps keep holds where a match stops, of its marks. -/
theorem matchAt {place : Place} {m : Match} (start : P place.position ⟨0, []⟩)
    (found : matchAt program place = some m) :
    ∃ address, program[address]? = some .accept ∧ P m.stop ⟨address, m.marks⟩ := by
  obtain ⟨⟨stop, marks⟩, ran, rfl⟩ := Option.map_eq_some_iff.mp found
  have came : ∀ thread ∈ [Thread.mk 0 []], Came program place 0 place thread :=
    List.forall_mem_singleton.mpr ⟨0, .stay⟩
  obtain ⟨_, q, address, way, accepts, rfl⟩ := way_of_run came ran
  have last := kept.way way start
  rw [List.append_nil] at last
  exact ⟨address, accepts, last⟩

end Kept

/-- A step notes the position in its slot, if it notes one. -/
theorem marks_of_branches {place : Place} {thread next : Thread} {step : Step}
    (inside : next ∈ step.branches place thread) :
    next.marks = thread.marks ∧ (∀ slot target, step ≠ .mark slot target) ∨
      ∃ slot target, step = .mark slot target ∧
        next = ⟨target, (slot, place.position) :: thread.marks⟩ := by
  cases step with
  | look condition target =>
    simp only [Step.branches] at inside
    split at inside
    · rw [List.mem_singleton.mp inside]
      exact .inl ⟨rfl, by simp⟩
    · cases inside
  | mark slot target => exact .inr ⟨slot, target, rfl, List.mem_singleton.mp inside⟩
  | jump target =>
    rw [List.mem_singleton.mp inside]
    exact .inl ⟨rfl, by simp⟩
  | fork first second =>
    rcases List.mem_pair.mp inside with rfl | rfl <;> exact .inl ⟨rfl, by simp⟩
  | one _ _ => cases inside
  | accept => cases inside

theorem Regex.mem_groups_of_mark {r : Regex} {base next slot target : Nat}
    (inside : Step.mark slot target ∈ r.code base next) : slot / 2 ∈ r.groups := by
  induction r generalizing base next with
  | empty | one _ | look _ => cases List.mem_singleton.mp inside
  | capture index body ih =>
    rw [code, List.mem_cons, List.mem_append, List.mem_singleton] at inside
    rcases inside with same | inside | same
    · cases same
      exact List.mem_cons.mpr (.inl (by omega))
    · exact List.mem_cons_of_mem _ (ih inside)
    · cases same
      exact List.mem_cons.mpr (.inl (by omega))
  | seq first second ih₁ ih₂ =>
    rw [code, List.mem_append] at inside
    exact List.mem_append.mpr (inside.imp ih₁ ih₂)
  | alt first second ih₁ ih₂ =>
    rw [code, List.mem_cons, List.mem_append] at inside
    rcases inside with same | inside
    · cases same
    · exact List.mem_append.mpr (inside.imp ih₁ ih₂)
  | optional greedy body ih =>
    rw [code, List.mem_cons] at inside
    rcases inside with same | inside
    · cases greedy <;> cases same
    · exact ih inside
  | plus greedy body ih =>
    rw [code, List.mem_append, List.mem_singleton] at inside
    rcases inside with inside | same
    · exact ih inside
    · cases greedy <;> cases same

/-- A match marks only groups of the regular expression, and only positions in it. -/
theorem marks_matchAt {r : Regex} {place : Place} {m : Match}
    (found : matchAt r.program place = some m) :
    ∀ mark ∈ m.marks, mark.1 / 2 ∈ r.groups ∧ m.start ≤ mark.2 ∧ mark.2 ≤ m.stop := by
  have known {x slot next : Nat} (at_ : r.program[x]? = some (.mark slot next)) :
      slot / 2 ∈ r.groups := by
    have inside := List.mem_of_getElem? ((List.getElem?_toArray ..).symm.trans at_)
    rcases List.mem_append.mp inside with inside | accept
    · exact Regex.mem_groups_of_mark inside
    · cases List.mem_singleton.mp accept
  have kept : Kept r.program fun position thread => place.position ≤ position ∧
      ∀ mark ∈ thread.marks,
        mark.1 / 2 ∈ r.groups ∧ place.position ≤ mark.2 ∧ mark.2 ≤ position := by
    refine ⟨fun {here thread next step} old at_ branch => ⟨old.1, ?_⟩, fun old _ => ?_⟩
    · rcases marks_of_branches branch with ⟨same, -⟩ | ⟨slot, target, rfl, rfl⟩
      · rw [same]
        exact old.2
      · exact List.forall_mem_cons.mpr ⟨⟨known at_, old.1, Nat.le_refl _⟩, old.2⟩
    · exact ⟨Nat.le_succ_of_le old.1, fun mark marked =>
        have ⟨group, low, high⟩ := old.2 mark marked
        ⟨group, low, Nat.le_succ_of_le high⟩⟩
  obtain ⟨_, -, -, marks⟩ := kept.matchAt ⟨Nat.le_refl _, nofun⟩ found
  obtain ⟨_, -, rfl⟩ := Option.map_eq_some_iff.mp found
  exact marks

/-- From an address on, a program can accept without closing a group before. -/
inductive Escapes (program : Program) (index : Nat) : Nat → Prop
  | accept {x : Nat} (at_ : program[x]? = some .accept) : Escapes program index x
  | step {x y : Nat} {step : Step} (at_ : program[x]? = some step) (goes : y ∈ step.targets)
      (open_ : ∀ target, step ≠ .mark (2 * index + 1) target) (later : Escapes program index y) :
      Escapes program index x

private theorem split_of_append {α : Type} {first second before after : List α} {a : α}
    (split : first ++ second = before ++ a :: after) :
    (∃ rest, first = before ++ a :: rest ∧ after = rest ++ second) ∨
      ∃ rest, before = first ++ rest ∧ second = rest ++ a :: after := by
  rcases List.append_eq_append_iff.mp split with ⟨rest, left, right⟩ | ⟨rest, left, right⟩
  · exact .inr ⟨rest, left, right⟩
  · cases rest with
    | nil => exact .inr ⟨[], by simpa using left.symm, right.symm⟩
    | cons b rest =>
      obtain ⟨rfl, rfl⟩ := List.cons.inj right
      exact .inl ⟨rest, left, rfl⟩

private theorem split_of_cons {α : Type} {a b : α} {list before after : List α} (other : a ≠ b)
    (split : a :: list = before ++ b :: after) :
    ∃ rest, before = a :: rest ∧ list = rest ++ b :: after := by
  rcases List.cons_eq_append_iff.mp split with ⟨-, same⟩ | ⟨rest, rfl, same⟩
  · exact absurd (List.cons.inj same).1.symm other
  · exact ⟨rest, rfl, same⟩

private theorem forkTo_ne_mark (greedy : Bool) (again next slot target : Nat) :
    Regex.forkTo greedy again next ≠ .mark slot target := by
  cases greedy <;> simp [Regex.forkTo]

/-- Behind the mark that opens a group stand the steps of its body, and then the mark that closes
it. -/
theorem Regex.exists_body {r : Regex} {base next index target : Nat} {before after : List Step}
    (split : r.code base next = before ++ .mark (2 * index) target :: after) :
    ∃ (body : Regex) (next' : Nat) (after' : List Step), target = base + before.length + 1 ∧
      after = body.code target (target + body.size) ++ .mark (2 * index + 1) next' :: after' := by
  have single {step : Step} {before after : List Step}
      (other : step ≠ .mark (2 * index) target) :
      [step] ≠ before ++ .mark (2 * index) target :: after := by
    intro split
    obtain ⟨rest, -, nothing⟩ := split_of_cons other split
    simp at nothing
  induction r generalizing base next before after with
  | empty | one _ | look _ => exact absurd split (single (by simp))
  | capture number body ih =>
    have closing : Step.mark (2 * number + 1) next ≠ .mark (2 * index) target := by
      intro same
      have := (Step.mark.inj same).1
      omega
    rw [code] at split
    rcases List.cons_eq_append_iff.mp split with ⟨rfl, same⟩ | ⟨front, rfl, inner⟩
    · obtain ⟨opens, rfl⟩ := List.cons.inj same
      obtain ⟨slot, rfl⟩ := Step.mark.inj opens
      obtain rfl : number = index := by omega
      exact ⟨body, next, [], rfl, rfl⟩
    · rcases split_of_append inner with ⟨rest, found, rfl⟩ | ⟨rest, -, found⟩
      · obtain ⟨body', next', after', rfl, rfl⟩ := ih found
        exact ⟨body', next', after' ++ [.mark (2 * number + 1) next],
          by simp only [List.length_cons]; omega, by simp⟩
      · exact absurd found (single closing)
  | seq first second ih₁ ih₂ =>
    rcases split_of_append split with ⟨rest, found, rfl⟩ | ⟨rest, rfl, found⟩
    · obtain ⟨body, next', after', place, rfl⟩ := ih₁ found
      exact ⟨body, next', after' ++ second.code (base + first.size) next, place, by simp⟩
    · obtain ⟨body, next', after', rfl, rfl⟩ := ih₂ found
      exact ⟨body, next', after', by simp [Nat.add_assoc], rfl⟩
  | alt first second ih₁ ih₂ =>
    rw [code] at split
    obtain ⟨front, rfl, inner⟩ := split_of_cons (by simp) split
    rcases split_of_append inner with ⟨rest, found, rfl⟩ | ⟨rest, rfl, found⟩
    · obtain ⟨body, next', after', rfl, rfl⟩ := ih₁ found
      exact ⟨body, next', after' ++ second.code (base + 1 + first.size) next,
        by simp only [List.length_cons]; omega, by simp⟩
    · obtain ⟨body, next', after', rfl, rfl⟩ := ih₂ found
      refine ⟨body, next', after', ?_, rfl⟩
      simp only [List.length_cons, List.length_append, length_code]
      omega
  | optional greedy body ih =>
    rw [code] at split
    obtain ⟨front, rfl, inner⟩ := split_of_cons (forkTo_ne_mark _ _ _ _ _) split
    obtain ⟨body', next', after', rfl, rfl⟩ := ih inner
    exact ⟨body', next', after', by simp only [List.length_cons]; omega, rfl⟩
  | plus greedy body ih =>
    rcases split_of_append split with ⟨rest, found, rfl⟩ | ⟨rest, -, found⟩
    · obtain ⟨inner, next', after', place, rfl⟩ := ih found
      exact ⟨inner, next', after' ++ [forkTo greedy base next], place, by simp⟩
    · exact absurd found (single (forkTo_ne_mark _ _ _ _ _))

/-- Behind the mark that opens a group, a program has the steps of the body of the group, and then
the mark that closes it. -/
theorem exists_body_of_open {r : Regex} {x index target : Nat}
    (at_ : r.program[x]? = some (.mark (2 * index) target)) :
    ∃ (body : Regex) (next : Nat), ∀ k ≤ body.size, r.program[target + k]? =
      if k < body.size then (body.code target (target + body.size))[k]?
      else some (.mark (2 * index + 1) next) := by
  have here : (r.code 0 r.size)[x]? = some (.mark (2 * index) target) := by
    rw [Regex.program_getElem?] at at_
    split at at_
    · exact at_
    · split at at_ <;> cases at_
  obtain ⟨small, here⟩ := List.getElem?_eq_some_iff.mp here
  have split := (List.take_append_drop x (r.code 0 r.size)).symm
  rw [List.drop_eq_getElem_cons small, here] at split
  obtain ⟨body, next, after, place, behind⟩ := Regex.exists_body split
  rw [List.length_take_of_le (Nat.le_of_lt small), Nat.zero_add] at place
  have length := congrArg List.length behind
  simp only [List.length_drop, Regex.length_code, List.length_append, List.length_cons] at length
  refine ⟨body, next, fun k inside => ?_⟩
  rw [Regex.program_getElem?, if_pos (by omega), place, ← List.getElem?_drop, behind, ← place]
  split
  · next inner => exact List.getElem?_append_left (by rwa [Regex.length_code])
  · next last =>
    rw [List.getElem?_append_right (by rw [Regex.length_code]; omega), Regex.length_code,
      show k - body.size = 0 by omega]
    rfl

/-- Behind the mark that opens a group, a program does not accept before the group is closed. -/
theorem not_escapes_of_open {r : Regex} {x index target : Nat}
    (at_ : r.program[x]? = some (.mark (2 * index) target)) :
    ¬ Escapes r.program index target := by
  obtain ⟨body, next, steps⟩ := exists_body_of_open at_
  -- From the body of the group, steps lead to the body or to the mark that closes the group.
  have closed : ∀ y, Escapes r.program index y → ∀ k ≤ body.size, y ≠ target + k := by
    intro y escapes
    induction escapes with
    | accept at_ =>
      rintro k inside rfl
      rw [steps k inside] at at_
      split at at_
      · exact body.accept_notMem_code _ _ (List.mem_of_getElem? at_)
      · cases at_
    | @step _ y _ at_ goes open_ later ih =>
      rintro k inside rfl
      rw [steps k inside] at at_
      split at at_
      · have := body.targets_code (List.mem_of_getElem? at_) goes
        exact ih (y - target) (by omega) (by omega)
      · cases at_
        exact open_ next rfl
  exact fun escapes => closed target escapes 0 (Nat.zero_le _) rfl

def Marks.latest? (marks : Marks) (index : Nat) : Option (Nat × Nat) :=
  marks.find? fun mark => mark.1 / 2 = index

/-- Marks are in order, and a group that is open will be closed: from the address of the thread on,
the program does not accept before. -/
structure Thread.IsOrdered (program : Program) (position : Nat) (thread : Thread) : Prop where
  begun : ∀ mark ∈ thread.marks, mark.2 ≤ position
  sorted : thread.marks.Pairwise fun later earlier => earlier.2 ≤ later.2
  closes : ∀ index start, thread.marks.latest? index = some (2 * index, start) →
    ¬ Escapes program index thread.address

theorem kept_isOrdered (r : Regex) : Kept r.program (Thread.IsOrdered r.program) where
  silent := by
    intro place thread next step old at_ branch
    have onward {index : Nat} (target : next.address ∈ step.targets)
        (open_ : ∀ target, step ≠ .mark (2 * index + 1) target)
        (stays : ¬ Escapes r.program index thread.address) :
        ¬ Escapes r.program index next.address :=
      fun later => stays (.step at_ target open_ later)
    rcases marks_of_branches branch with ⟨same, silent⟩ | ⟨slot, target, rfl, rfl⟩
    · constructor
      · rw [same]
        exact old.begun
      · rw [same]
        exact old.sorted
      · intro index start latest
        rw [same] at latest
        exact onward (branches_targets branch) (fun _ => silent _ _) (old.closes index start latest)
    · refine ⟨List.forall_mem_cons.mpr ⟨Nat.le_refl _, old.begun⟩,
        List.pairwise_cons.mpr ⟨old.begun, old.sorted⟩, fun index start latest => ?_⟩
      rw [Marks.latest?, List.find?_cons] at latest
      by_cases same : slot / 2 = index
      · simp only [same, decide_true] at latest
        obtain ⟨rfl, -⟩ := Prod.mk.inj (Option.some.inj latest)
        exact not_escapes_of_open at_
      · simp only [same, decide_false] at latest
        refine onward (List.mem_singleton_self _) (fun target' closing => same ?_)
          (old.closes index start latest)
        rw [(Step.mark.inj closing).1]
        omega
  one := by
    intro position next thread cls old at_
    refine ⟨fun mark marked => Nat.le_succ_of_le (old.begun mark marked), old.sorted,
      fun index start latest later => old.closes index start latest ?_⟩
    exact .step at_ (List.mem_singleton_self _) nofun later

theorem mem_of_lookup {α β : Type} [BEq α] [LawfulBEq α] {entries : List (α × β)} {key : α}
    {value : β} (found : entries.lookup key = some value) : (key, value) ∈ entries := by
  obtain ⟨before, after, split, -⟩ := List.lookup_eq_some_iff.mp found
  rw [split]
  exact List.mem_append_right before List.mem_cons_self

/-- No group stops before it starts. -/
private theorem lookup_ordered {r : Regex} {place : Place} {m : Match}
    (found : matchAt r.program place = some m) {index first last : Nat}
    (begins : m.marks.lookup (2 * index) = some first)
    (ends : m.marks.lookup (2 * index + 1) = some last) : first ≤ last := by
  have start : Thread.IsOrdered r.program place.position ⟨0, []⟩ := ⟨nofun, .nil, nofun⟩
  obtain ⟨address, accepts, ordered⟩ := (kept_isOrdered r).matchAt start found
  have marked := mem_of_lookup begins
  cases latest : m.marks.latest? index with
  | none => simpa using List.find?_eq_none.mp latest _ marked
  | some mark =>
    obtain ⟨family, before, after, split, fresh⟩ := List.find?_eq_some_iff_append.mp latest
    obtain ⟨slot, position⟩ := mark
    have slots : slot = 2 * index ∨ slot = 2 * index + 1 := by
      have := of_decide_eq_true family
      dsimp only at this
      omega
    rcases slots with rfl | rfl
    · -- The group would still be open where the program accepts.
      exact absurd (.accept accepts) (ordered.closes index position latest)
    · have closed : m.marks.lookup (2 * index + 1) = some position := by
        refine List.lookup_eq_some_iff.mpr ⟨before, after, split, fun mark earlier => ?_⟩
        have other := fresh mark earlier
        rw [Bool.not_eq_true', decide_eq_false_iff_not] at other
        rw [bne_iff_ne]
        omega
      cases ends.symm.trans closed
      have sorted := ordered.sorted
      rw [split, List.pairwise_append, List.pairwise_cons] at sorted
      rw [split, List.mem_append, List.mem_cons] at marked
      rcases marked with earlier | same | later
      · simpa using fresh _ earlier
      · have := (Prod.mk.inj same).1
        omega
      · exact sorted.2.1.1 _ later

/-- A group is a part of the match. -/
theorem group?_matchAt {r : Regex} {place : Place} {m : Match}
    (found : matchAt r.program place = some m) {index first last : Nat}
    (group : m.group? index = some (first, last)) :
    m.start ≤ first ∧ first ≤ last ∧ last ≤ m.stop := by
  obtain ⟨start, begins, rest⟩ := Option.bind_eq_some_iff.mp group
  obtain ⟨stop, ends, made⟩ := Option.bind_eq_some_iff.mp rest
  cases made
  have marks := marks_matchAt found
  exact ⟨(marks _ (mem_of_lookup begins)).2.1, lookup_ordered found begins ends,
    (marks _ (mem_of_lookup ends)).2.2⟩

end LocaleLint.Pattern
