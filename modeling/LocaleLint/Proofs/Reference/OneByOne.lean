import Mathlib
import LocaleLint.Proofs.Pattern.Verbosity
import LocaleLint.Proofs.Reference.DeepSearch
import LocaleLint.Proofs.Reference.KeyRuns
import LocaleLint.Proofs.Reference.Letters

/-!
# Forms of references one by one

Where one pattern for several forms of references finds keys, trying the forms one by one at each
place finds the same keys. The forms do not have to know of each other, unless a pattern of the user
turns verbose mode on or names a group like the one of the declared keys.
-/

namespace LocaleLint.KeyPattern

open Pattern Fragment

/-! ## Trying forms one by one -/

/-- A form that matches, with its own pattern and its own match. -/
structure Hit where
  fragment : Fragment
  own : Pattern
  found : Match

/-- The ends of a hit. -/
def Hit.range (hit : Hit) : Nat × Nat := (hit.found.start, hit.found.stop)

/-- The key of a hit: a declared key unless key characters touch it, and for other forms the first
group that is not empty, or the whole match unless it is empty. -/
def Hit.key? (content : Text) (hit : Hit) : Option FoundKey :=
  match hit.fragment with
  | .declared _ => if isTouched content hit.range then none else some (keyAt content hit.range)
  | _ =>
    let groups := (List.range hit.own.groupCount).map fun i => hit.found.group? (i + 1)
    (firstFilled? (groups ++ [some hit.range])).map (keyAt content)

/-- The first of some forms that matches at a position. -/
def hitAt? (forms : List (Fragment × Pattern)) (content : Text) (position : Nat) : Option Hit :=
  forms.findSome? fun form =>
    (matchAt form.2.program ((Place.start content).advance position)).map (⟨form.1, form.2, ·⟩)

/-- The leftmost hit from a position on that counts behind the last one. -/
def nextHit? (forms : List (Fragment × Pattern)) (content : Text) (position : Nat)
    (last : Option Nat) : Option Hit :=
  (List.range' position (content.length + 1 - position)).findSome? fun position =>
    (hitAt? forms content position).filter fun hit => hit.found.Counts last

theorem hitAt?_bounds {forms : List (Fragment × Pattern)} {content : Text} {position : Nat}
    {hit : Hit} (inside : position ≤ content.length)
    (here : hitAt? forms content position = some hit) :
    hit.found.start = position ∧ position ≤ hit.found.stop ∧ hit.found.stop ≤ content.length := by
  obtain ⟨form, -, matched⟩ := List.exists_of_findSome?_eq_some here
  obtain ⟨m, found, rfl⟩ := Option.map_eq_some_iff.mp matched
  have bounds := matchAt_bounds found
  rw [Place.position_advance_start inside, Place.rest_advance, List.length_drop] at bounds
  have length : (Place.start content).rest.length = content.length := rfl
  dsimp only
  omega

private theorem findSome?_range' {α : Type} {f : Nat → Option α} {start count : Nat} {a : α} :
    (List.range' start count).findSome? f = some a ↔
      ∃ n < count, f (start + n) = some a ∧ ∀ k < n, f (start + k) = none := by
  induction count generalizing start with
  | zero => simp
  | succ count ih =>
    rw [List.range'_succ, List.findSome?_cons]
    cases first : f start with
    | some b =>
      constructor
      · intro same
        exact ⟨0, Nat.succ_pos count, first.trans same, by simp⟩
      · rintro ⟨n, -, found, none⟩
        cases n with
        | zero => exact first.symm.trans found
        | succ n => cases first.symm.trans (none 0 (Nat.succ_pos n))
    | none =>
      rw [ih]
      constructor
      · rintro ⟨n, inside, found, none⟩
        refine ⟨n + 1, Nat.succ_lt_succ inside, ?_, fun k early => ?_⟩
        · rwa [Nat.add_right_comm] at found
        · cases k with
          | zero => exact first
          | succ k =>
            have later := none k (Nat.lt_of_succ_lt_succ early)
            rwa [Nat.add_right_comm] at later
      · rintro ⟨n, inside, found, none⟩
        cases n with
        | zero => cases first.symm.trans found
        | succ n =>
          refine ⟨n, Nat.lt_of_succ_lt_succ inside, ?_, fun k early => ?_⟩
          · rwa [Nat.add_right_comm]
          · rw [Nat.add_right_comm]
            exact none (k + 1) (Nat.succ_lt_succ early)

section
variable {forms : List (Fragment × Pattern)} {content : Text} {position : Nat} {last : Option Nat}

theorem filter_eq_none {found : Option Hit} :
    (found.filter fun hit => hit.found.Counts last) = none ↔
      ∀ hit, found = some hit → ¬ hit.found.Counts last := by
  cases found <;> simp

theorem nextHit?_eq_some {hit : Hit} (within : position ≤ content.length) :
    nextHit? forms content position last = some hit ↔
      ∃ n ≤ content.length - position, hitAt? forms content (position + n) = some hit ∧
        hit.found.Counts last ∧ ∀ k < n, ∀ earlier,
          hitAt? forms content (position + k) = some earlier → ¬ earlier.found.Counts last := by
  have count : content.length + 1 - position = content.length - position + 1 := by omega
  simp only [nextHit?, count, findSome?_range', filter_eq_none, Option.filter_eq_some_iff,
    decide_eq_true_eq, Nat.lt_succ_iff, and_assoc]

theorem nextHit?_eq_none (within : position ≤ content.length) :
    nextHit? forms content position last = none ↔
      ∀ n ≤ content.length - position, ∀ hit,
        hitAt? forms content (position + n) = some hit → ¬ hit.found.Counts last := by
  rw [nextHit?, List.findSome?_eq_none_iff]
  simp only [filter_eq_none, List.mem_range'_1]
  constructor
  · exact fun none n inside => none (position + n) ⟨Nat.le_add_right _ _, by omega⟩
  · intro none q ⟨low, high⟩
    have later := none (q - position) (by omega)
    rwa [Nat.add_sub_cancel' low] at later

/-- A hit counts that is found, and the position behind it is in the content. -/
theorem nextHit?_bounds {hit : Hit} (next : nextHit? forms content position last = some hit) :
    hit.found.Counts last ∧ position ≤ hit.found.start ∧ hit.found.start ≤ hit.found.stop ∧
      hit.found.stop ≤ content.length := by
  have within : position ≤ content.length := by
    by_contra outside
    rw [nextHit?, show content.length + 1 - position = 0 by omega] at next
    cases next
  obtain ⟨n, inside, here, counts, -⟩ := (nextHit?_eq_some within).mp next
  obtain ⟨start, low, high⟩ := hitAt?_bounds (by omega) here
  exact ⟨counts, by omega, by omega, high⟩

end

/-- The hits from a position on, one behind the other. -/
def hitsFrom (forms : List (Fragment × Pattern)) (content : Text) (position : Nat)
    (last : Option Nat) : List Hit :=
  match _ : nextHit? forms content position last with
  | none => []
  | some hit => hit :: hitsFrom forms content hit.found.stop (some hit.found.stop)
termination_by 2 * (content.length - position) + if last = some position then 0 else 1
decreasing_by
  rename_i next
  obtain ⟨counts, low, ordered, high⟩ := nextHit?_bounds next
  rw [if_pos trivial]
  by_cases stays : hit.found.stop = position
  · have new : last ≠ some position := fun same => counts ⟨by omega, by rw [same, stays]⟩
    rw [if_neg new]
    omega
  · omega

theorem hitsFrom_of_none {forms : List (Fragment × Pattern)} {content : Text} {position : Nat}
    {last : Option Nat} (next : nextHit? forms content position last = none) :
    hitsFrom forms content position last = [] := by
  rw [hitsFrom]
  split
  · rfl
  · rename_i found
    cases next.symm.trans found

theorem hitsFrom_of_some {forms : List (Fragment × Pattern)} {content : Text} {position : Nat}
    {last : Option Nat} {hit : Hit} (next : nextHit? forms content position last = some hit) :
    hitsFrom forms content position last =
      hit :: hitsFrom forms content hit.found.stop (some hit.found.stop) := by
  rw [hitsFrom]
  split
  · rename_i found
    cases next.symm.trans found
  · rename_i found
    cases next.symm.trans found
    rfl

/-! ## Scanning -/

private theorem exists_of_rel_left {α β : Type} {Same : α → β → Prop} {a : α}
    {left : Option α} {right : Option β} (same : Option.Rel Same left right)
    (found : left = some a) : ∃ b, right = some b ∧ Same a b := by
  cases same with
  | none => cases found
  | some same =>
    cases found
    exact ⟨_, rfl, same⟩

private theorem exists_of_rel_right {α β : Type} {Same : α → β → Prop} {b : β}
    {left : Option α} {right : Option β} (same : Option.Rel Same left right)
    (found : right = some b) : ∃ a, left = some a ∧ Same a b := by
  cases same with
  | none => cases found
  | some same =>
    cases found
    exact ⟨_, rfl, same⟩

section
variable {program : Program} {forms : List (Fragment × Pattern)} {content : Text}
  {Same : Match → Hit → Prop}
  (each : ∀ position ≤ content.length, Option.Rel Same
    (matchAt program ((Place.start content).advance position)) (hitAt? forms content position))
  (ends : ∀ {m hit}, Same m hit → hit.found.start = m.start ∧ hit.found.stop = m.stop)
include each ends

/-- A scan with a program that matches at each place like the forms do finds what they find one by
one. -/
theorem forall₂_matchesFrom {fuel position : Nat} {last : Option Nat}
    (within : position ≤ content.length) (touching : last = none ∨ last = some position)
    (enough : content.length - position + (if last = none then 2 else 1) ≤ fuel) :
    List.Forall₂ Same (matchesFrom program fuel ((Place.start content).advance position) last)
      (hitsFrom forms content position last) := by
  -- Only the first match can leave the scan where it is, so two steps more than characters are
  -- enough.
  induction fuel generalizing position last with
  | zero => split at enough <;> omega
  | succ fuel ih =>
    have here : ((Place.start content).advance position).position = position :=
      Place.position_advance_start within
    have length : ((Place.start content).advance position).rest.length =
        content.length - position := by
      rw [Place.rest_advance, List.length_drop]
      rfl
    have counts {m : Match} {hit : Hit} (same : Same m hit) :
        hit.found.Counts last ↔ m.Counts last := by
      obtain ⟨start, stop⟩ := ends same
      rw [Match.Counts, Match.Counts, start, stop]
    have onward {n : Nat} (inside : n ≤ content.length - position) : Option.Rel Same
        (matchAt program (((Place.start content).advance position).advance n))
        (hitAt? forms content (position + n)) := by
      rw [← Place.advance_add]
      exact each _ (by omega)
    rcases matchesFrom_cases program fuel (here.symm ▸ touching) with
      ⟨nothing, missing⟩ | ⟨n, inside, m, found, counted, earlier, scanned⟩
    · rw [length] at missing
      have next : nextHit? forms content position last = none := by
        refine (nextHit?_eq_none within).mpr fun n inside hit at_ counted => ?_
        obtain ⟨m, found, same⟩ := exists_of_rel_right (onward inside) at_
        exact missing n inside m found ((counts same).mp counted)
      rw [nothing, hitsFrom_of_none next]
      exact .nil
    · have moves := lt_stop_of_counts (here.symm ▸ touching) inside found counted
      rw [here] at moves
      rw [length] at inside
      obtain ⟨hit, at_, same⟩ := exists_of_rel_left (onward inside) found
      have next : nextHit? forms content position last = some hit := by
        refine (nextHit?_eq_some within).mpr
          ⟨n, inside, at_, (counts same).mpr counted, fun k early other at_ counted => ?_⟩
        obtain ⟨m, found, same⟩ := exists_of_rel_right (onward (by omega)) at_
        exact earlier k early m found ((counts same).mp counted)
      obtain ⟨hitCounts, low, ordered, high⟩ := nextHit?_bounds next
      obtain ⟨start, stop⟩ := ends same
      rw [start, stop] at ordered
      rw [start] at low
      rw [stop] at high
      have behind : ((Place.start content).advance position).advance
          (m.stop - ((Place.start content).advance position).position) =
            (Place.start content).advance m.stop := by
        rw [here, ← Place.advance_add]
        congr 1
        omega
      rw [scanned, behind, hitsFrom_of_some next, stop]
      refine .cons same (ih high (.inr rfl) ?_)
      rw [if_neg (by simp)]
      rcases moves with first | moves
      · rw [if_pos first] at enough
        omega
      · split at enough <;> omega

end

/-! ## Forms in groups -/

/-- A text that, as a pattern, neither turns verbose mode on nor names a group like the one of the
declared keys. -/
def IsPlain (source : Text) : Prop :=
  ∀ ast captures, Ast.ofText source = .ok (ast, captures) →
    (.verbose, true) ∉ ast.changes ∧ declaredGroup ∉ ast.groupNames.map Prod.fst

/-- Reading a text decides whether it is plain. -/
theorem isPlain_iff {source : Text} :
    ((Ast.ofText source).toOption.all fun read =>
      !read.1.changes.contains (.verbose, true) &&
        !(read.1.groupNames.map Prod.fst).contains declaredGroup) ↔ IsPlain source := by
  unfold IsPlain
  cases Ast.ofText source with
  | error fault => simp [Except.toOption]
  | ok read =>
    simp only [Except.toOption, Option.all_some, Bool.and_eq_true, Bool.not_eq_true',
      List.contains_eq_mem, decide_eq_false_iff_not]
    constructor
    · rintro plain ast captures same
      cases same
      exact plain
    · exact fun plain => plain read.1 read.2 rfl

instance (source : Text) : Decidable (IsPlain source) := decidable_of_iff _ isPlain_iff

set_option maxRecDepth 100000 in
theorem isPlain_builtin (form : BuiltinForm) : IsPlain form.source := by
  rw [form.source_eq_letters]
  cases form <;> decide +kernel

/-- A form with a pattern of its own that does not interfere with others. -/
def Fits (fragment : Fragment) (own : Pattern) : Prop :=
  Pattern.compile flags fragment.source = .ok own ∧
    ∀ pattern, fragment = .custom pattern → IsPlain (stripSlashes pattern)

/-- A form is either one of declared keys or a plain pattern. -/
theorem Fits.cases {fragment : Fragment} {own : Pattern} (fits : Fits fragment own) :
    (∃ keys, fragment = .declared keys ∧ own = declaredPattern keys) ∨
      (∀ keys, fragment ≠ .declared keys) ∧ IsPlain fragment.source := by
  obtain ⟨compiled, plain⟩ := fits
  cases fragment with
  | declared keys =>
    refine .inl ⟨keys, rfl, ?_⟩
    cases (compile_declared keys).symm.trans compiled
    rfl
  | builtin form => exact .inr ⟨nofun, isPlain_builtin form⟩
  | custom pattern => exact .inr ⟨nofun, plain pattern rfl⟩

theorem exists_closes_declared (keys : List Text) :
    ∃ final, Reading.Closes (declared keys).source final := by
  by_cases filled : searchOrder keys = []
  · rw [source_declared_of_nil filled]
    exact ⟨_, .of_grouped rfl rfl rfl rfl⟩
  · have alone := (finish_declared filled [] (Reading.start []) rfl List.not_mem_nil).trans
      (Reading.finish_end rfl)
    rw [List.append_nil] at alone
    have grouped := (finish_declared_group filled []).trans (Reading.finish_end rfl)
    exact ⟨_, .of_grouped alone rfl grouped rfl⟩

/-- A form that does not interfere with others is a branch of every choice. -/
theorem Fits.exists_stands {fragment : Fragment} {own : Pattern} (fits : Fits fragment own) :
    ∃ branch, Stands fragment own branch := by
  obtain ⟨final, regex, flags', finished, closed, shallow, meant, rfl⟩ :=
    compile_eq_ok.mp fits.1
  have closes : Reading.Closes fragment.source final := by
    rcases fits.cases with ⟨keys, rfl, -⟩ | ⟨-, plain⟩
    · obtain ⟨final', closes⟩ := exists_closes_declared keys
      cases closes.alone.symm.trans finished
      exact closes
    · have read := ofText_eq_ok.mpr ⟨final, finished, closed, shallow, rfl, rfl⟩
      exact .of_plain finished closed (plain _ _ read).1
  exact ⟨⟨final, regex⟩, ⟨closes, flags', meant⟩, fun _ => rfl, rfl, rfl⟩

theorem notMem_groups_declaredRegex (keys : List Text) (index : Nat) :
    index ∉ (declaredRegex keys).groups := by
  intro inside
  obtain ⟨r, literal, inside⟩ := Regex.mem_groups_alts.mp inside
  obtain ⟨key, -, rfl⟩ := List.mem_map.mp literal
  obtain ⟨one, listed, inside⟩ := Regex.mem_groups_seqs.mp inside
  obtain ⟨c, -, rfl⟩ := List.mem_map.mp listed
  cases inside

/-- The group of declared keys is the whole match. -/
theorem keyOf?_declaredPattern {keys : List Text} {place : Place} {m : Match}
    (found : matchAt (declaredPattern keys).program place = some m) (content : Text) :
    keyOf? (declaredPattern keys) content m =
      if isTouched content (m.start, m.stop) then none
      else some (keyAt content (m.start, m.stop)) := by
  rw [declaredPattern, matchAt_capture] at found
  obtain ⟨⟨start, stop, marks⟩, inner, rfl⟩ := Option.map_eq_some_iff.mp found
  have unmarked : marks = [] := List.eq_nil_iff_forall_not_mem.mpr fun mark marked =>
    notMem_groups_declaredRegex keys _ (marks_matchAt inner mark marked).1
  subst unmarked
  exact keyOf?_declared content

/-- The key of a hit is the key of its match. -/
theorem Fits.key?_eq {fragment : Fragment} {own : Pattern} (fits : Fits fragment own)
    {place : Place} {m : Match} (found : matchAt own.program place = some m) (content : Text) :
    (Hit.mk fragment own m).key? content = keyOf? own content m := by
  rcases fits.cases with ⟨keys, rfl, rfl⟩ | ⟨other, plain⟩
  · exact (keyOf?_declaredPattern found content).symm
  · obtain ⟨final, regex, flags', finished, closed, shallow, meant, rfl⟩ :=
      compile_eq_ok.mp fits.1
    have read := ofText_eq_ok.mpr ⟨final, finished, closed, shallow, rfl, rfl⟩
    have fresh : ∀ name ∈ final.level.close.groupNames, name.1 ∉ [declaredGroup] := by
      intro name inside taken
      refine (plain _ _ read).2 (List.mem_map.mpr ⟨name, inside, ?_⟩)
      exact List.mem_singleton.mp taken
    rw [keyOf?, namedGroup?_eq_none fresh]
    cases fragment with
    | declared keys => exact absurd rfl (other keys)
    | builtin form => rfl
    | custom pattern => rfl

/-! ## Forms side by side -/

/-- A match that stands for a hit: its ends and its key are the same. -/
def SameKey (pattern : Pattern) (content : Text) (m : Match) (hit : Hit) : Prop :=
  (hit.found.start = m.start ∧ hit.found.stop = m.stop) ∧
    keyOf? pattern content m = hit.key? content

/-- A form with the branch that it is in a choice. -/
def IsForm (form : Fragment × Pattern) (branch : Branch) : Prop :=
  Fits form.1 form.2 ∧ Stands form.1 form.2 branch

/-- A choice matches where the first of its forms does, with the same key. -/
theorem rel_findSome? {pattern : Pattern} (before : List Branch) {branches : List Branch}
    {forms : List (Fragment × Pattern)} (each : List.Forall₂ IsForm forms branches)
    (of : ∀ other ∈ before ++ branches, ∃ source, other.Of flags source)
    (groups : pattern.groupCount = total (before ++ branches))
    (names : pattern.groupNames = (numbered 0 (before ++ branches)).flatMap namesOf)
    (distinct : ((before ++ branches).flatMap fun branch => branch.final.names).Nodup)
    (place : Place) (content : Text) :
    Option.Rel (SameKey pattern content)
      ((numbered (total before) branches).findSome? fun branch =>
        (matchAt branch.2.regex.program place).map (Match.shift branch.1))
      (forms.findSome? fun form => (matchAt form.2.program place).map (⟨form.1, form.2, ·⟩)) := by
  -- The groups of a form are numbered behind those of the forms before it.
  induction each generalizing before with
  | nil => exact .none
  | @cons form branch forms branches first _ ih =>
    obtain ⟨fits, stands⟩ := first
    rw [numbered, List.findSome?_cons, List.findSome?_cons, ← stands.matching]
    dsimp only
    cases found : matchAt form.2.program place with
    | some m =>
      refine .some ⟨⟨rfl, rfl⟩, ?_⟩
      rw [keyOf?_shift stands of groups names distinct found content, fits.key?_eq found]
    | none =>
      have joined : (before ++ [branch]) ++ branches = before ++ branch :: branches :=
        List.append_assoc before [branch] branches
      have sum : total (before ++ [branch]) = branch.final.captures + total before := by
        simp [total, Nat.add_comm]
      rw [← joined] at of groups names distinct
      have later := ih _ of groups names distinct
      rwa [sum] at later

/-- Forms that compile have patterns of their own and branches of a choice. -/
theorem exists_forms {fragments : List Fragment}
    (alone : ∀ fragment ∈ fragments, ∃ own, Fits fragment own) :
    ∃ owns branches, List.Forall₂ Fits fragments owns ∧
      List.Forall₂ IsForm (fragments.zip owns) branches ∧
      List.Forall₂ (Branch.Of flags) (fragments.map Fragment.source) branches := by
  induction fragments with
  | nil => exact ⟨[], [], .nil, .nil, .nil⟩
  | cons fragment rest ih =>
    obtain ⟨⟨own, fits⟩, alone⟩ := List.forall_mem_cons.mp alone
    obtain ⟨branch, stands⟩ := fits.exists_stands
    obtain ⟨owns, branches, each, forms, of⟩ := ih alone
    exact ⟨own :: owns, branch :: branches, .cons fits each, .cons ⟨fits, stands⟩ forms,
      .cons stands.of of⟩

theorem filterMap_of_forall₂ {α β γ : Type} {Same : α → β → Prop} {f : α → Option γ}
    {g : β → Option γ} (same : ∀ {a b}, Same a b → f a = g b) {left : List α} {right : List β}
    (each : List.Forall₂ Same left right) : left.filterMap f = right.filterMap g := by
  induction each with
  | nil => rfl
  | cons first _ ih => rw [List.filterMap_cons, List.filterMap_cons, same first, ih]

/-- One pattern for several forms finds the keys that the forms find one by one: at the leftmost place
where one of them matches and behind the last match, the first of them that matches there does what
it does alone. -/
theorem extract_eq_one_by_one {fragments : List Fragment} {combined : KeyPattern}
    (compiled : ofFragments fragments = .ok combined)
    (plain : ∀ pattern, .custom pattern ∈ fragments → IsPlain (stripSlashes pattern)) :
    ∃ owns, List.Forall₂ (fun fragment own =>
        Pattern.compile flags fragment.source = .ok own) fragments owns ∧
      ∀ content, combined.extract content =
        (hitsFrom (fragments.zip owns) content 0 none).filterMap (Hit.key? content) := by
  by_cases some : fragments = []
  · subst some
    cases compiled
    refine ⟨[], .nil, fun content => ?_⟩
    have next : nextHit? [] content 0 none = none :=
      (nextHit?_eq_none (Nat.zero_le _)).mpr nofun
    rw [List.zip_nil_left, hitsFrom_of_none next]
    rfl
  obtain ⟨alone, pattern, grouped, rfl⟩ := (ofFragments_eq_ok some).mp compiled
  have fits : ∀ fragment ∈ fragments, ∃ own, Fits fragment own := by
    intro fragment inside
    obtain ⟨own, compiled⟩ := alone fragment inside
    refine ⟨own, compiled, ?_⟩
    rintro custom rfl
    exact plain custom inside
  obtain ⟨owns, branches, each, forms, of⟩ := exists_forms fits
  refine ⟨owns, each.imp fun _ _ fits => fits.1, fun content => ?_⟩
  obtain ⟨matching, groups, names, distinct⟩ := compile_choice of (by simpa using some) grouped
  have sources : ∀ other ∈ branches, ∃ source, other.Of flags source := by
    intro other member
    obtain ⟨source, -, of⟩ := exists_of_forall₂ of.flip member
    exact ⟨source, of⟩
  have places : ∀ position ≤ content.length, Option.Rel (SameKey pattern content)
      (matchAt pattern.program ((Place.start content).advance position))
      (hitAt? (fragments.zip owns) content position) := by
    intro position _
    rw [matching]
    exact rel_findSome? [] forms sources groups names distinct _ content
  have scanned : List.Forall₂ (SameKey pattern content) (pattern.matchesIn content)
      (hitsFrom (fragments.zip owns) content 0 none) :=
    forall₂_matchesFrom places And.left (Nat.zero_le _) (.inl rfl) (Nat.le_refl _)
  exact filterMap_of_forall₂ And.right scanned

/-- A declared key, a pattern with two groups between slashes, and a pattern that matches nothing
too. -/
def assortedForms : List Fragment :=
  [.declared ["A".toList], .custom "/t\\('(?:(B)|([^']*))'\\)/g".toList, .custom "(?-x)x*".toList]

set_option maxRecDepth 100000 in
theorem extract_eq_one_by_one_assorted :
    (∀ pattern, .custom pattern ∈ assortedForms → IsPlain (stripSlashes pattern)) ∧
      ∃ combined, ofFragments assortedForms = .ok combined ∧
        combined.extract "t('') A.A A xx".toList =
          [⟨"t('')".toList, 0⟩, ⟨"A".toList, 10⟩, ⟨"xx".toList, 12⟩] ∧
        ∃ owns, List.Forall₂ (fun fragment own =>
            Pattern.compile flags fragment.source = .ok own) assortedForms owns ∧
          ∀ content, combined.extract content =
            (hitsFrom (assortedForms.zip owns) content 0 none).filterMap (Hit.key? content) := by
  have plain : ∀ pattern, .custom pattern ∈ assortedForms → IsPlain (stripSlashes pattern) := by
    intro pattern inside
    simp only [assortedForms, List.mem_cons, List.not_mem_nil, or_false, reduceCtorEq, false_or,
      Fragment.custom.injEq] at inside
    rcases inside with rfl | rfl
    · decide +kernel
    · decide +kernel
  have runs : (ofFragments assortedForms).toOption.map (·.extract "t('') A.A A xx".toList) =
      some [⟨"t('')".toList, 0⟩, ⟨"A".toList, 10⟩, ⟨"xx".toList, 12⟩] := by decide +kernel
  cases compiled : ofFragments assortedForms with
  | error failure => simp [compiled, Except.toOption] at runs
  | ok combined =>
    rw [compiled] at runs
    exact ⟨plain, combined, rfl, Option.some.inj runs, extract_eq_one_by_one compiled plain⟩

end LocaleLint.KeyPattern
