import Mathlib
import LocaleLint.Proofs.Reference.DeepSearch
import LocaleLint.Proofs.Reference.KeyRuns
import LocaleLint.Proofs.Reference.Letters

/-!
# When a deep search compiles

Validation compiles the forms of references without declared keys. With declared keys in front they
compile as well, unless one of them has a group with the name of the group of declared keys.
-/

namespace LocaleLint.KeyPattern

open Pattern Fragment

/-- The built-in forms come first. -/
theorem exists_compose_shallow (keys customPatterns : List Text) :
    ∃ others, others ≠ [] ∧
      compose keys customPatterns false = builtin .directiveContent :: others :=
  ⟨_, List.cons_ne_nil (builtin .directiveAttribute) _, rfl⟩

/-- Forms behind one that closes its group are read as a choice. -/
theorem branches_of_finish_combine {source : Text} {sources : List Text} {first final : Reading}
    (closes : Reading.Closes source first) (some : sources ≠ [])
    (finished : (Reading.start (combine (source :: sources))).finish = .ok final)
    (closed : final.groups = []) : final.level.branches ≠ [] := by
  let front : Front := ⟨.group (.plain []) (first.level.close.shift 0), first.captures, first.names⟩
  have read : ((Reading.start (combine sources)).behind front).finish = .ok final := by
    have start : Reading.start (combine (source :: sources)) =
        ⟨⟨[], []⟩, [], false, 0, [], "(?:".toList ++ source ++ ')' :: '|' :: combine sources⟩ :=
      congrArg Reading.start (combine_cons source some)
    have placed : (Reading.start (combine sources)).behind front =
        ⟨⟨[front.branch], []⟩, [], false, first.captures, first.names, combine sources⟩ := by
      simp [Reading.behind, Reading.start, Level.behind, groupsBehind, front]
    rw [start] at finished
    have onward := Reading.finish_group closes finished
    rw [Reading.finish_step _ (c := '|') rfl] at onward
    rw [placed]
    exact onward
  obtain ⟨rest, _, rfl⟩ := Reading.exists_finish_of_behind (free_start _ _) read
  have bottom : rest.groups.isEmpty = true := by
    rw [← isEmpty_groupsBehind front, List.isEmpty_iff]
    exact closed
  simp [Reading.behind, Level.behind, bottom]

set_option maxRecDepth 100000 in
/-- The pattern for other forms than declared keys is a choice. -/
theorem branches_of_finish_shallow {keys customPatterns : List Text} {final : Reading}
    (finished : (Reading.start (combine
      ((compose keys customPatterns false).map Fragment.source))).finish = .ok final)
    (closed : final.groups = []) : final.level.branches ≠ [] := by
  have compiles : (ofFragments [builtin .directiveContent]).toOption.isSome := by
    rw [ofFragments_eq_ofSources, List.map_singleton, labelled, Fragment.source,
      BuiltinForm.source_eq_letters]
    decide +kernel
  obtain ⟨own, compiled⟩ := exists_eq_ok compiles
  obtain ⟨_, branch, _, stands⟩ := exists_stands compiled
  obtain ⟨others, some, forms⟩ := exists_compose_shallow keys customPatterns
  rw [forms, List.map_cons] at finished
  exact branches_of_finish_combine stands.of.closes (by simpa using some) finished closed

/-- The pattern for the patterns of the user and the built-in forms has a group with the name of
the group of declared keys. -/
def TakesDeclaredGroup (customPatterns : List Text) : Prop :=
  ∃ shallow pattern, ofFragments (compose [] customPatterns false) = .ok shallow ∧
    shallow.pattern = some pattern ∧ declaredGroup ∈ pattern.groupNames.map Prod.fst

instance (customPatterns : List Text) : Decidable (TakesDeclaredGroup customPatterns) :=
  decidable_of_iff (((ofSources (sources [] customPatterns false)).toOption.bind
      KeyPattern.pattern).any fun pattern =>
        (pattern.groupNames.map Prod.fst).contains declaredGroup) <| by
    unfold TakesDeclaredGroup
    rw [← ofFragments_compose]
    cases ofFragments (compose [] customPatterns false) with
    | error failure => simp [Except.toOption]
    | ok shallow => simp [Except.toOption, Option.any_eq_true]

section
variable {keys customPatterns : List Text} (filled : searchOrder keys ≠ [])
include filled

/-- All forms together are read as declared keys in front of the forms that compile without
them. -/
private theorem finish_deep :
    (Reading.start (combine ((compose keys customPatterns true).map Fragment.source))).finish =
      ((Reading.start (combine ((compose [] customPatterns false).map Fragment.source))).behind
        (declaredFront keys)).finish := by
  rw [compose_deep, if_neg filled, List.singleton_append, List.map_cons]
  exact finish_combine_declared filled (by simpa using compose_shallow_ne_nil keys customPatterns)

variable {shallow : KeyPattern}
  (compiled : ofFragments (compose [] customPatterns false) = .ok shallow)
include compiled

/-- With declared keys in front, forms that compile fail at most when they are put together. -/
private theorem ofFragments_deep :
    ofFragments (compose keys customPatterns true) =
      (compileAs (combine ((compose keys customPatterns true).map Fragment.source))
        (combine ((compose keys customPatterns true).map Fragment.source))).map fun pattern =>
          ⟨some pattern, (compose keys customPatterns true).length⟩ := by
  obtain ⟨alone, -⟩ := (ofFragments_eq_ok (compose_shallow_ne_nil _ _)).mp compiled
  rw [compose_deep, if_neg filled, List.singleton_append]
  refine ofFragments_of_alone (List.cons_ne_nil _ _) (List.forall_mem_cons.mpr ⟨?_, alone⟩)
  exact ⟨_, compile_declared keys⟩

/-- Declared keys do not compile in front of a group with the name of their own. -/
theorem ofFragments_deep_of_takes (takes : TakesDeclaredGroup customPatterns) :
    ofFragments (compose keys customPatterns true) = .error (.patternInvalid
      ⟨combine ((compose keys customPatterns true).map Fragment.source), .groupNameDuplicate⟩) := by
  obtain ⟨_, pattern, compiled', has, taken⟩ := takes
  cases compiled.symm.trans compiled'
  obtain ⟨-, _, whole, rfl⟩ := (ofFragments_eq_ok (compose_shallow_ne_nil _ _)).mp compiled
  cases has
  have clash := compile_behind_of_taken (declaredFront keys) (finish_deep filled) whole
    ⟨declaredGroup, taken, List.mem_singleton_self _⟩
  rw [ofFragments_deep filled compiled, compileAs, clash]
  rfl

omit compiled in
/-- Where declared keys compile in front, no other group has the name of their own. -/
theorem not_takesDeclaredGroup_of_deep {deep : KeyPattern}
    (compiled' : ofFragments (compose keys customPatterns true) = .ok deep) :
    ¬ TakesDeclaredGroup customPatterns := by
  obtain ⟨_, compiled⟩ := exists_shallow filled compiled'
  intro takes
  rw [ofFragments_deep_of_takes filled compiled takes] at compiled'
  cases compiled'

/-- Declared keys compile in front of forms that compile, unless those take the name of their
group. -/
theorem exists_ofFragments_deep (free : ¬ TakesDeclaredGroup customPatterns) :
    ∃ deep, ofFragments (compose keys customPatterns true) = .ok deep := by
  obtain ⟨-, pattern, whole, rfl⟩ := (ofFragments_eq_ok (compose_shallow_ne_nil _ _)).mp compiled
  have unnamed : ¬ Taken (pattern.groupNames.map Prod.fst) (declaredFront keys).names := by
    rintro ⟨name, inside, same⟩
    cases List.mem_singleton.mp same
    exact free ⟨_, pattern, compiled, rfl, inside⟩
  have depth := depth_declaredAst_le 1 keys
  have flat : (declaredFront keys).branch.depth < nestingLimit := by
    rw [declaredFront, Ast.depth]
    exact Nat.lt_of_le_of_lt (Nat.succ_le_succ depth) (by decide)
  obtain ⟨both, made⟩ := exists_compile_behind (declaredFront keys) (toRegex_declared_group filled)
    (finish_deep filled) whole flat
    (fun _ finished closed => branches_of_finish_shallow finished closed) unnamed
  rw [ofFragments_deep filled compiled, compileAs, made]
  exact ⟨_, rfl⟩

end

end LocaleLint.KeyPattern
