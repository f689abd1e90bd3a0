import Mathlib
import LocaleLint.Pattern.Search

/-!
# Scanning a text

Where the matches of a scan are. A search finds the first place at which its program matches, and a
scan passes over a place at which its program matches only if another match of it reaches over that
place.
-/

namespace LocaleLint.Pattern

namespace Place

theorem advance_add (m n : Nat) (place : Place) :
    place.advance (m + n) = (place.advance m).advance n := by
  induction m generalizing place with
  | zero => rw [Nat.zero_add, advance]
  | succ m ih =>
    obtain ⟨position, before, rest⟩ := place
    rw [Nat.succ_add_eq_add_succ, Nat.add_succ]
    cases rest with
    | nil =>
      cases n with
      | zero => rfl
      | succ n => rfl
    | cons c rest => exact ih _

theorem rest_advance (n : Nat) (place : Place) : (place.advance n).rest = place.rest.drop n := by
  induction n generalizing place with
  | zero => rfl
  | succ n ih =>
    obtain ⟨position, before, rest⟩ := place
    cases rest with
    | nil => rfl
    | cons c rest => exact ih _

theorem position_advance {n : Nat} (place : Place) (inside : n ≤ place.rest.length) :
    (place.advance n).position = place.position + n := by
  induction n generalizing place with
  | zero => rfl
  | succ n ih =>
    obtain ⟨position, before, rest⟩ := place
    cases rest with
    | nil => cases inside
    | cons c rest =>
      have := ih ⟨position + 1, some c, rest⟩ (Nat.le_of_succ_le_succ inside)
      simp only [advance, this]
      omega

theorem position_advance_start {text : Text} {n : Nat} (inside : n ≤ text.length) :
    ((start text).advance n).position = n :=
  (position_advance (start text) inside).trans (Nat.zero_add n)

end Place

theorem run_bounds {program : Program} {rest : Text} {position : Nat} {before : Option Char}
    {threads : List Thread} {stop : Nat} {marks : Marks}
    (ran : run program position before rest threads = some (stop, marks)) :
    position ≤ stop ∧ stop ≤ position + rest.length := by
  have here {place : Place} {threads : List Thread}
      (accepts : accepted? program place threads = some (stop, marks)) : stop = place.position := by
    obtain ⟨thread, -, accepts⟩ := List.exists_of_findSome?_eq_some accepts
    unfold Thread.accepted? at accepts
    split at accepts <;> cases accepts
    rfl
  induction rest generalizing position before threads with
  | nil =>
    have := here ran
    dsimp only at this
    rw [List.length_nil]
    omega
  | cons c rest ih =>
    rw [List.length_cons]
    rw [run] at ran
    split at ran
    · have := here ran
      dsimp only at this
      omega
    · split at ran
      · rename_i later
        rw [ran] at later
        have := ih later
        omega
      · have := here ran
        dsimp only at this
        omega

theorem matchAt_bounds {program : Program} {place : Place} {m : Match}
    (found : matchAt program place = some m) :
    m.start = place.position ∧ m.start ≤ m.stop ∧
      m.stop ≤ place.position + place.rest.length := by
  obtain ⟨⟨stop, marks⟩, ran, rfl⟩ := Option.map_eq_some_iff.mp found
  have bounds := run_bounds ran
  exact ⟨rfl, bounds.1, bounds.2⟩

theorem search_eq_some {program : Program} {place : Place} {m : Match}
    (found : search program place.position place.before place.rest = some m) :
    ∃ n ≤ place.rest.length, matchAt program (place.advance n) = some m ∧
      ∀ k < n, matchAt program (place.advance k) = none := by
  obtain ⟨position, before, rest⟩ := place
  induction rest generalizing position before with
  | nil => exact ⟨0, Nat.le_refl 0, found, by simp⟩
  | cons c rest ih =>
    rw [search] at found
    split at found
    · rename_i here
      cases found
      exact ⟨0, Nat.zero_le _, here, by simp⟩
    · rename_i nowhere
      obtain ⟨n, inside, later, first⟩ := ih _ _ found
      refine ⟨n + 1, Nat.succ_le_succ inside, later, ?_⟩
      intro k before
      cases k with
      | zero => exact nowhere
      | succ k => exact first k (Nat.lt_of_succ_lt_succ before)

theorem search_eq_none {program : Program} {place : Place}
    (missing : search program place.position place.before place.rest = none) :
    ∀ n ≤ place.rest.length, matchAt program (place.advance n) = none := by
  obtain ⟨position, before, rest⟩ := place
  induction rest generalizing position before with
  | nil =>
    intro n inside
    rw [Nat.le_zero.mp inside]
    exact missing
  | cons c rest ih =>
    rw [search] at missing
    split at missing
    · cases missing
    · rename_i nowhere
      intro n inside
      cases n with
      | zero => exact nowhere
      | succ n => exact ih _ _ missing n (Nat.le_of_succ_le_succ inside)

/-- A search finds the first match from a place on. -/
theorem search_cases (program : Program) (place : Place) :
    (search program place.position place.before place.rest = none ∧
      ∀ n ≤ place.rest.length, matchAt program (place.advance n) = none) ∨
    ∃ n ≤ place.rest.length, ∃ m, search program place.position place.before place.rest = some m ∧
      matchAt program (place.advance n) = some m ∧
        ∀ k < n, matchAt program (place.advance k) = none := by
  cases found : search program place.position place.before place.rest with
  | none => exact .inl ⟨rfl, search_eq_none found⟩
  | some m =>
    obtain ⟨n, inside, here, first⟩ := search_eq_some found
    exact .inr ⟨n, inside, m, rfl, here, first⟩

/-- A search behind a place finds the first match from the next place on. -/
theorem searchBehind_cases (program : Program) (place : Place) :
    (searchBehind program place = none ∧
      ∀ n ≤ place.rest.length, n ≠ 0 → matchAt program (place.advance n) = none) ∨
    ∃ n ≤ place.rest.length, n ≠ 0 ∧ ∃ m, searchBehind program place = some m ∧
      matchAt program (place.advance n) = some m ∧
        ∀ k < n, k ≠ 0 → matchAt program (place.advance k) = none := by
  obtain ⟨position, before, rest⟩ := place
  cases rest with
  | nil => exact .inl ⟨rfl, fun n inside behind => absurd (Nat.le_zero.mp inside) behind⟩
  | cons c rest =>
    -- A place further behind this one is a place behind the next one.
    rcases search_cases program ⟨position + 1, some c, rest⟩ with
      ⟨missing, none⟩ | ⟨n, inside, m, found, here, first⟩
    · refine .inl ⟨missing, fun k inside behind => ?_⟩
      cases k with
      | zero => cases behind rfl
      | succ k => exact none k (Nat.le_of_succ_le_succ inside)
    · refine .inr ⟨n + 1, Nat.succ_le_succ inside, Nat.succ_ne_zero n, m, found, here,
        fun k early behind => ?_⟩
      cases k with
      | zero => cases behind rfl
      | succ k => exact first k (Nat.lt_of_succ_lt_succ early)

/-- A match counts behind another one, unless it is empty and that one stops there. -/
def Match.Counts (last : Option Nat) (m : Match) : Prop := ¬ (m.start = m.stop ∧ some m.stop = last)

instance (last : Option Nat) (m : Match) : Decidable (m.Counts last) :=
  inferInstanceAs (Decidable (¬ _))

theorem Match.skipped_iff {last : Option Nat} {m : Match} :
    (m.start == m.stop && some m.stop == last) = true ↔ ¬ m.Counts last := by
  rw [Match.Counts, not_not, Bool.and_eq_true, beq_iff_eq, beq_iff_eq]

/-- A match that does not count is at the place itself, where the last one stopped. -/
theorem eq_zero_of_not_counts {program : Program} {place : Place} {last : Option Nat}
    (touching : last = none ∨ last = some place.position) {n : Nat} {m : Match}
    (inside : n ≤ place.rest.length) (here : matchAt program (place.advance n) = some m)
    (skipped : ¬ m.Counts last) : n = 0 := by
  obtain ⟨empty, stopped⟩ := not_not.mp skipped
  have start := (matchAt_bounds here).1
  rw [Place.position_advance _ inside] at start
  rcases touching with none | some
  · cases stopped.trans none
  · have stop : m.stop = place.position := Option.some.inj (stopped.trans some)
    omega

/-- A match that counts takes the scan onward, unless the scan begins at the place. -/
theorem lt_stop_of_counts {program : Program} {place : Place} {last : Option Nat}
    (touching : last = none ∨ last = some place.position) {n : Nat} {m : Match}
    (inside : n ≤ place.rest.length) (here : matchAt program (place.advance n) = some m)
    (counts : m.Counts last) : last = none ∨ place.position < m.stop := by
  have bounds := matchAt_bounds here
  rw [Place.position_advance _ inside] at bounds
  refine touching.imp_right fun same => ?_
  by_contra short
  exact counts ⟨by omega, by rw [same]; exact congrArg some (by omega)⟩

/-- A scan goes on with the first match that counts, if there is one. -/
theorem matchesFrom_cases (program : Program) (fuel : Nat) {place : Place} {last : Option Nat}
    (touching : last = none ∨ last = some place.position) :
    (matchesFrom program (fuel + 1) place last = [] ∧
      ∀ n ≤ place.rest.length, ∀ m, matchAt program (place.advance n) = some m →
        ¬ m.Counts last) ∨
    ∃ n ≤ place.rest.length, ∃ m, matchAt program (place.advance n) = some m ∧ m.Counts last ∧
      (∀ k < n, ∀ earlier, matchAt program (place.advance k) = some earlier →
        ¬ earlier.Counts last) ∧
      matchesFrom program (fuel + 1) place last =
        m :: matchesFrom program fuel (place.advance (m.stop - place.position)) (some m.stop) := by
  rw [matchesFrom]
  rcases search_cases program place with ⟨missing, none⟩ | ⟨n, inside, m, found, here, first⟩
  · rw [missing]
    refine .inl ⟨rfl, fun n inside m here => ?_⟩
    cases (none n inside).symm.trans here
  rw [found]
  by_cases counts : m.Counts last
  · simp only [mt Match.skipped_iff.mp (not_not_intro counts)]
    refine .inr ⟨n, inside, m, here, counts, fun k before earlier there => ?_, rfl⟩
    cases (first k before).symm.trans there
  · simp only [Match.skipped_iff.mpr counts, if_true]
    -- What is passed over is the match at the place itself, and all behind it count.
    have zero := eq_zero_of_not_counts touching inside here counts
    subst zero
    have passed {other : Match} (there : matchAt program (place.advance 0) = some other) :
        ¬ other.Counts last := by
      cases here.symm.trans there
      exact counts
    rcases searchBehind_cases program place with
      ⟨missing, none⟩ | ⟨n, inside, behind, m, found, here, first⟩
    · rw [missing]
      refine .inl ⟨rfl, fun k inside other there => ?_⟩
      by_cases zero : k = 0
      · subst zero
        exact passed there
      · cases (none k inside zero).symm.trans there
    · rw [found]
      refine .inr ⟨n, inside, m, here, ?_, fun k early other there => ?_, rfl⟩
      · by_contra skipped
        exact behind (eq_zero_of_not_counts touching inside here skipped)
      · by_cases zero : k = 0
        · subst zero
          exact passed there
        · cases (first k early zero).symm.trans there

/-- Where a program matches, a scan goes on with a match that is not later, unless the match given is
empty and the last one stopped there. -/
theorem matchesFrom_succ {program : Program} (fuel : Nat) {place : Place} {last : Option Nat}
    (touching : last = none ∨ last = some place.position) {n : Nat} {m : Match}
    (inside : n ≤ place.rest.length) (here : matchAt program (place.advance n) = some m)
    (counts : n = 0 → m.stop = place.position → last = none) :
    ∃ first ≤ n, ∃ found, matchAt program (place.advance first) = some found ∧
      (last = none ∨ place.position < found.stop) ∧
      matchesFrom program (fuel + 1) place last =
        found :: matchesFrom program fuel (place.advance (found.stop - place.position))
          (some found.stop) := by
  have start := (matchAt_bounds here).1
  rw [Place.position_advance _ inside] at start
  have counted : m.Counts last := by
    rintro ⟨empty, rfl⟩
    rcases touching with none | same
    · cases none
    · have stop := Option.some.inj same
      cases counts (by omega) stop
  rcases matchesFrom_cases program fuel touching with
    ⟨-, none⟩ | ⟨first, near, found, at_, counted', earlier, scanned⟩
  · exact absurd counted (none n inside m here)
  · refine ⟨first, ?_, found, at_, lt_stop_of_counts touching near at_ counted', scanned⟩
    by_contra later
    exact earlier n (Nat.lt_of_not_le later) m here counted

/-- The places that are left for a scan. -/
private def left (place : Place) (last : Option Nat) : Nat :=
  place.rest.length + if last = none then 2 else 1

/-- Where a program matches behind a place, the scan from there holds that match, or another match
that begins earlier and reaches over it. -/
theorem matchesFrom_covers {program : Program} {fuel : Nat} {place : Place} {last : Option Nat}
    (enough : left place last ≤ fuel)
    (touching : last = none ∨ last = some place.position) {n : Nat} {m : Match}
    (inside : n ≤ place.rest.length) (here : matchAt program (place.advance n) = some m)
    (counts : n = 0 → m.stop = place.position → last = none) :
    m ∈ matchesFrom program fuel place last ∨
      ∃ other ∈ matchesFrom program fuel place last,
        other.start < m.start ∧ m.start ≤ other.stop ∧
          (m.start = m.stop ∨ m.start < other.stop) := by
  induction fuel generalizing place last n with
  | zero =>
    unfold left at enough
    split at enough <;> omega
  | succ fuel ih =>
    obtain ⟨first, early, found, at_, moves, scanned⟩ :=
      matchesFrom_succ fuel touching inside here counts
    rw [scanned]
    have start := (matchAt_bounds here).1
    have bounds := matchAt_bounds at_
    rw [Place.position_advance _ inside] at start
    rw [Place.position_advance _ (Nat.le_trans early inside), Place.rest_advance,
      List.length_drop] at bounds
    rcases Nat.eq_or_lt_of_le early with rfl | earlier
    · rw [at_] at here
      cases here
      exact .inl List.mem_cons_self
    · by_cases reaches : m.start < found.stop
      · exact .inr ⟨found, List.mem_cons_self, by omega, by omega, .inr reaches⟩
      · by_cases touches : m.start = found.stop ∧ m.start = m.stop
        · exact .inr ⟨found, List.mem_cons_self, by omega, by omega, .inl touches.2⟩
        · -- The scan goes on from the end of the match that was found.
          have rest := Place.rest_advance (found.stop - place.position) place
          have onward : (place.advance (found.stop - place.position)).position = found.stop := by
            rw [Place.position_advance _ (by omega)]
            omega
          have shorter : left (place.advance (found.stop - place.position)) (some found.stop) ≤
              fuel := by
            unfold left at enough ⊢
            rw [rest, List.length_drop, if_neg (by simp)]
            rcases moves with none | moves
            · rw [if_pos none] at enough
              omega
            · have : place.rest.length + 1 ≤ fuel + 1 := by split at enough <;> omega
              omega
          have same : (place.advance (found.stop - place.position)).advance
              (m.start - found.stop) = place.advance n := by
            rw [← Place.advance_add]
            congr 1
            omega
          have later := ih shorter (.inr (by rw [onward]))
            (n := m.start - found.stop) (by rw [rest, List.length_drop]; omega)
            (by rw [same]; exact here)
            (by intro zero stop; rw [onward] at stop; omega)
          rcases later with found' | ⟨other, found', reaches⟩
          · exact .inl (List.mem_cons_of_mem _ found')
          · exact .inr ⟨other, List.mem_cons_of_mem _ found', reaches⟩

/-- Where a pattern matches, the scan of the text holds that match, or another match that begins
earlier and reaches over it. -/
theorem matchesIn_covers {pattern : LocaleLint.Pattern} {text : Text} {n : Nat} {m : Match}
    (inside : n ≤ text.length)
    (here : matchAt pattern.program ((Place.start text).advance n) = some m) :
    m ∈ pattern.matchesIn text ∨ ∃ other ∈ pattern.matchesIn text,
      other.start < m.start ∧ m.start ≤ other.stop ∧ (m.start = m.stop ∨ m.start < other.stop) :=
  matchesFrom_covers (Nat.le_refl _) (.inl rfl) inside here fun _ _ => rfl

private theorem matchAt_of_searchBehind {program : Program} {place : Place} {m : Match}
    (found : searchBehind program place = some m) :
    ∃ n ≤ place.rest.length, matchAt program (place.advance n) = some m := by
  rcases searchBehind_cases program place with
    ⟨missing, -⟩ | ⟨n, inside, -, other, found', here, -⟩
  · cases missing.symm.trans found
  · cases found'.symm.trans found
    exact ⟨n, inside, here⟩

/-- Each match of a scan is what its program gives at a place. -/
theorem matchAt_of_mem {program : Program} {fuel : Nat} {place : Place} {last : Option Nat}
    {m : Match} (inside : m ∈ matchesFrom program fuel place last) :
    ∃ n ≤ place.rest.length, matchAt program (place.advance n) = some m := by
  induction fuel generalizing place last with
  | zero => cases inside
  | succ fuel ih =>
    rw [matchesFrom] at inside
    split at inside
    · cases inside
    · rename_i found result
      have at_ : ∃ n ≤ place.rest.length, matchAt program (place.advance n) = some found := by
        split at result
        · rename_i first searched
          split at result
          · exact matchAt_of_searchBehind result
          · cases result
            obtain ⟨n, inside, here, -⟩ := search_eq_some searched
            exact ⟨n, inside, here⟩
        · cases result
      rcases List.mem_cons.mp inside with rfl | later
      · exact at_
      · obtain ⟨first, early, here⟩ := at_
        have bounds := matchAt_bounds here
        rw [Place.position_advance _ early, Place.rest_advance, List.length_drop] at bounds
        obtain ⟨n, inside, there⟩ := ih later
        rw [Place.rest_advance, List.length_drop] at inside
        rw [← Place.advance_add] at there
        exact ⟨_, by omega, there⟩

/-- The matches in a text are found at the places where they start. -/
theorem matchAt_start {program : Program} {fuel : Nat} {text : Text} {last : Option Nat}
    {m : Match} (inside : m ∈ matchesFrom program fuel (.start text) last) :
    m.start ≤ text.length ∧ matchAt program ((Place.start text).advance m.start) = some m := by
  obtain ⟨n, early, here⟩ := matchAt_of_mem inside
  have start : m.start = n :=
    (matchAt_bounds here).1.trans (Place.position_advance_start early)
  exact ⟨by rw [start]; exact early, by rw [start]; exact here⟩

/-- The matches of a scan do not overlap. -/
theorem pairwise_matchesFrom (program : Program) (fuel : Nat) (place : Place) (last : Option Nat) :
    (matchesFrom program fuel place last).Pairwise fun m later => m.stop ≤ later.start := by
  induction fuel generalizing place last with
  | zero => exact .nil
  | succ fuel ih =>
    have head : ∀ m ∈ matchesFrom program (fuel + 1) place last,
        ∃ n ≤ place.rest.length, matchAt program (place.advance n) = some m :=
      fun _ => matchAt_of_mem
    rw [matchesFrom] at head ⊢
    split
    · exact .nil
    · rename_i found result
      rw [result] at head
      refine List.pairwise_cons.mpr ⟨fun later inside => ?_, ih _ _⟩
      obtain ⟨first, early, here⟩ := head found List.mem_cons_self
      have bounds := matchAt_bounds here
      rw [Place.position_advance _ early, Place.rest_advance, List.length_drop] at bounds
      obtain ⟨n, near, there⟩ := matchAt_of_mem inside
      have start := (matchAt_bounds there).1
      rw [Place.position_advance _ near, Place.position_advance _ (by omega)] at start
      omega

/-- Of two matches in a text, one stops before the other one starts. -/
theorem apart_of_mem {pattern : LocaleLint.Pattern} {text : Text} {m other : Match}
    (inside : m ∈ pattern.matchesIn text) (inside' : other ∈ pattern.matchesIn text) :
    m = other ∨ m.stop ≤ other.start ∨ other.stop ≤ m.start := by
  have apart : (pattern.matchesIn text).Pairwise fun m other =>
      m.stop ≤ other.start ∨ other.stop ≤ m.start :=
    (pairwise_matchesFrom _ _ _ _).imp Or.inl
  have symmetric : Std.Symm fun m other : Match => m.stop ≤ other.start ∨ other.stop ≤ m.start :=
    ⟨fun _ _ => Or.symm⟩
  by_cases same : m = other
  · exact .inl same
  · exact .inr (apart.forall inside inside' same)

end LocaleLint.Pattern
