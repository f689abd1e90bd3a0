import Mathlib
import LocaleLint.Proofs.Pattern.Brackets

/-!
# Reading groups and counts in place

What an opening parenthesis begins, and how often something is repeated, is read the same where a
closing parenthesis follows. Only the names that are already taken make a difference.
-/

namespace LocaleLint.Pattern

theorem readFlags_append {seen : List Flag} {negated dangling : Bool} {text left : Text}
    {changes : List FlagChange}
    (read : readFlags seen negated dangling text = .ok (changes, left)) :
    left ≠ [] ∧ left.length ≤ text.length ∧
      ∀ behind,
        readFlags seen negated dangling (text ++ behind) = .ok (changes, left ++ behind) := by
  induction text generalizing seen negated dangling changes with
  | nil => cases read
  | cons c rest ih =>
    simp only [readFlags] at read
    simp only [List.cons_append, readFlags, List.length_cons]
    split at read
    · rename_i ends
      split at read
      · cases read
      · rename_i settled
        cases read
        simp [ends, settled]
    · rename_i going
      split at read
      · rename_i dash
        split at read
        · cases read
        · rename_i first
          obtain ⟨some, short, onward⟩ := ih read
          exact ⟨some, by omega, fun behind => by
            rw [if_neg going, if_pos dash, if_neg first, onward]⟩
      · rename_i letter
        cases known : Flag.ofLetter? c with
        | none =>
          rw [known] at read
          cases read
        | some flag =>
          rw [known] at read
          dsimp only at read
          split at read
          · cases read
          · rename_i fresh
            split at read
            · cases read
            · rename_i later
              cases read
              obtain ⟨some, short, onward⟩ := ih later
              exact ⟨some, by omega, fun behind => by
                rw [if_neg going, if_neg letter]
                simp only [if_neg fresh, onward]⟩

theorem readGroupName_append {first : Bool} {text name left : Text}
    (read : readGroupName first text = .ok (name, left)) :
    left.length < text.length ∧
      ∀ behind, readGroupName first (text ++ behind) = .ok (name, left ++ behind) := by
  induction text generalizing first name with
  | nil => cases read
  | cons c rest ih =>
    simp only [readGroupName] at read
    simp only [List.cons_append, readGroupName, List.length_cons]
    split at read
    · rename_i ends
      cases read
      exact ⟨Nat.lt_succ_self _, fun behind => if_pos ends⟩
    · rename_i going
      split at read
      · cases read
      · rename_i allowed
        split at read
        · cases read
        · rename_i later
          cases read
          obtain ⟨short, onward⟩ := ih later
          exact ⟨by omega, fun behind => by rw [if_neg going, if_neg allowed, onward]⟩

/-- A name is read the same, unless it is taken. -/
theorem readName_append {names : List Text} {text left : Text} {opener : Opener}
    (read : readName names text = .ok (opener, left)) :
    left.length < text.length ∧ (∀ name, opener = .capture (some name) → name ∉ names) ∧
      ∀ names' behind found, readName names' (text ++ behind) = .ok found →
        found = (opener, left ++ behind) := by
  obtain ⟨⟨name, rest⟩, named, read⟩ := bind_eq_ok.mp read
  obtain ⟨short, onward⟩ := readGroupName_append named
  dsimp only at read
  split at read
  · cases read
  rename_i filled
  split at read
  · cases read
  rename_i fresh
  cases read
  refine ⟨short, ?_, fun names' behind found read' => ?_⟩
  · intro name' same
    cases same
    exact fresh
  simp only [readName, onward, bind, Except.bind, filled, Bool.false_eq_true, if_false] at read'
  split at read'
  · cases read'
  · cases read'
    rfl

private theorem readQuestion_angle (names : List Text) {rest : Text}
    (equal : rest.head? ≠ some '=') (bang : rest.head? ≠ some '!') :
    readQuestion names ('<' :: rest) = readName names rest := by
  rw [readQuestion]
  · rintro tail rfl
    exact equal rfl
  · rintro tail rfl
    exact bang rfl

/-- What flags begin, with what stands behind them. -/
private def openerOf : List FlagChange × Text → Except Fault (Opener × Text)
  | (flags, ':' :: rest) => .ok (.plain flags, rest)
  | ([], _) => .error .repetitionMissing
  | (flags, rest) => .ok (.flags flags, rest.tail)

private theorem openerOf_append {changes : List FlagChange} {rest left : Text} {opener : Opener}
    (some : rest ≠ []) (read : openerOf (changes, rest) = .ok (opener, left)) :
    left.length < rest.length ∧ (∀ name, opener ≠ .capture name) ∧
      ∀ behind, openerOf (changes, rest ++ behind) = .ok (opener, left ++ behind) := by
  cases rest with
  | nil => exact absurd rfl some
  | cons c rest =>
    by_cases colon : c = ':'
    · subst colon
      cases read
      exact ⟨Nat.lt_succ_self _, by nofun, fun _ => rfl⟩
    · cases changes with
      | nil => simp [openerOf, colon] at read
      | cons change changes =>
        simp only [openerOf, List.cons.injEq, colon, false_and, imp_self, implies_true] at read
        cases read
        refine ⟨Nat.lt_succ_self _, by nofun, fun behind => ?_⟩
        simp only [openerOf, List.cons_append, List.cons.injEq, colon, false_and, imp_self,
          implies_true]
        rfl

private theorem readQuestion_flags (names : List Text) {c : Char} {rest : Text}
    (other : c ∉ ['=', '!', '<', 'P']) :
    readQuestion names (c :: rest) =
      (readFlags [] false false (c :: rest)).bind openerOf := by
  unfold readQuestion
  split
  any_goals
    rename_i same
    cases same
    exact absurd (by decide) other
  · contradiction
  · cases readFlags [] false false (c :: rest) with
    | error fault => rfl
    | ok found =>
      dsimp only [bind, Except.bind]
      split
      · rfl
      · rename_i plain
        rw [openerOf]
        · rfl
        · exact plain
      · rename_i plain some
        rw [openerOf]
        · rfl
        · exact plain
        · exact some

/-- What stands behind an opening parenthesis and a question mark is read the same, unless it is a
name that is taken. -/
theorem readQuestion_append {names : List Text} {text left : Text} {opener : Opener}
    (read : readQuestion names text = .ok (opener, left)) :
    left.length < text.length ∧ (∀ name, opener = .capture (some name) → name ∉ names) ∧
      ∀ names' behind found, readQuestion names' (text ++ behind) = .ok found →
        found = (opener, left ++ behind) := by
  have whole := read
  unfold readQuestion at read
  split at read
  · cases read
  · cases read
  · cases read
  · cases read
  · rename_i rest
    obtain ⟨short, fresh, onward⟩ := readName_append read
    exact ⟨by simp only [List.length_cons]; omega, fresh, onward⟩
  · rename_i rest equal bang
    obtain ⟨short, fresh, onward⟩ := readName_append read
    refine ⟨by simp only [List.length_cons]; omega, fresh, fun names' behind found read' => ?_⟩
    cases rest with
    | nil => cases short
    | cons c rest =>
      have noEqual : (c :: rest ++ behind).head? ≠ some '=' := by
        intro same
        cases same
        exact equal rest rfl
      have noBang : (c :: rest ++ behind).head? ≠ some '!' := by
        intro same
        cases same
        exact bang rest rfl
      rw [List.cons_append, readQuestion_angle names' noEqual noBang] at read'
      exact onward names' behind found read'
  · cases read
  · rename_i equal bang less lessBang capture angle some
    cases text with
    | nil => exact absurd rfl some
    | cons c text =>
      have other : c ∉ ['=', '!', '<', 'P'] := by
        intro special
        obtain ⟨_, flags, -⟩ := bind_eq_ok.mp read
        simp only [List.mem_cons, List.not_mem_nil, or_false] at special
        rcases special with rfl | rfl | rfl | rfl <;>
          simp [readFlags, Flag.ofLetter?] at flags
      rw [readQuestion_flags names other] at whole
      obtain ⟨⟨changes, rest⟩, flags, found⟩ := bind_eq_ok.mp whole
      obtain ⟨more, short, onward⟩ := readFlags_append flags
      obtain ⟨shorter, unnamed, goes⟩ := openerOf_append more found
      refine ⟨by omega, fun name same => absurd same (unnamed _), ?_⟩
      intro names' behind found' read'
      rw [List.cons_append, readQuestion_flags names' other, ← List.cons_append, onward] at read'
      have same := (goes behind).symm.trans read'
      cases same
      rfl

/-- What an opening parenthesis begins is read the same, unless nothing stands behind it, or a name
that is taken. -/
theorem readOpener_append {verbose : Bool} {names : List Text} {text left : Text} {opener : Opener}
    (read : readOpener verbose names text = .ok (opener, left)) :
    left.length ≤ text.length ∧ (∀ name, opener = .capture (some name) → name ∉ names) ∧
      (left = [] ∧ opener = .capture none ∨
        ∀ names' behind found, readOpener verbose names' (text ++ behind) = .ok found →
          found = (opener, left ++ behind)) := by
  have shorter := length_skip_le verbose text
  by_cases nothing : skip verbose text = []
  · rw [readOpener, nothing] at read
    cases read
    exact ⟨Nat.zero_le _, by nofun, .inl ⟨rfl, rfl⟩⟩
  · have goes (behind : Text) := skip_append nothing behind
    unfold readOpener at read ⊢
    simp only [goes]
    generalize skip verbose text = seen at read shorter nothing
    split at read
    · rename_i rest
      obtain ⟨short, fresh, onward⟩ := readQuestion_append read
      rw [List.length_cons] at shorter
      exact ⟨by omega, fresh, .inr onward⟩
    · rename_i plain
      cases read
      refine ⟨shorter, by nofun, .inr fun names' behind found read' => ?_⟩
      split at read'
      · rename_i rest same
        cases left with
        | nil => exact absurd rfl nothing
        | cons c left =>
          cases same
          exact absurd rfl (plain left)
      · cases read'
        rfl

theorem trimStart_append {text : Text} (behind : Text) :
    Text.trimStart (text ++ ')' :: behind) = Text.trimStart text ++ ')' :: behind := by
  unfold Text.trimStart
  rw [List.dropWhile_append]
  split
  · rename_i none
    rw [List.isEmpty_iff.mp none]
    rfl
  · rfl

theorem length_trimStart_le (text : Text) : (Text.trimStart text).length ≤ text.length :=
  (List.dropWhile_suffix _).length_le

theorem length_readCount_le (verbose : Bool) (text : Text) :
    (readCount verbose text).2.length ≤ text.length := by
  have first := length_trimStart_le text
  have second := length_trimStart_le
    (takeSkipping verbose Char.isDigit (Text.trimStart text)).2
  have third : (takeSkipping verbose Char.isDigit (Text.trimStart text)).2.length ≤
      (Text.trimStart text).length := length_takeSkipping_le rfl
  unfold readCount
  dsimp only
  omega

theorem readCount_append {verbose : Bool} {text : Text} (some : (readCount verbose text).2 ≠ [])
    (behind : Text) : readCount verbose (text ++ ')' :: behind) =
      ((readCount verbose text).1, (readCount verbose text).2 ++ ')' :: behind) := by
  cases took : takeSkipping verbose Char.isDigit (Text.trimStart text) with
  | mk digits rest =>
    have more : rest ≠ [] := by
      rintro rfl
      simp only [readCount, took] at some
      exact some rfl
    simp only [readCount, trimStart_append, takeSkipping_append took more, took]

/-- The bounds of a counted repetition, from the first of its numbers and what stands behind it. -/
private def boundsBehind (verbose : Bool) (least : Except Fault Nat) :
    Text → Except Fault ((Nat × Option Nat) × Text)
  | [] => .error .countUnclosed
  | ',' :: rest =>
    match skip verbose rest with
    | [] => .error .countUnclosed
    | '\x7d' :: rest => do return ((← least, none), '\x7d' :: rest)
    | rest => do
      let least ← least
      let most ← (readCount verbose rest).1
      return ((least, some most), (readCount verbose rest).2)
  | text => do
    let least ← least
    return ((least, some least), text)

private theorem readCounts_of_some {verbose : Bool} {text : Text} (some : skip verbose text ≠ []) :
    readCounts verbose text = boundsBehind verbose (readCount verbose (skip verbose text)).1
      (readCount verbose (skip verbose text)).2 := by
  unfold readCounts
  generalize skip verbose text = seen at some
  split
  · exact absurd rfl some
  · rfl

private theorem boundsBehind_append {verbose : Bool} {least : Except Fault Nat} {text left : Text}
    {bounds : Nat × Option Nat} (read : boundsBehind verbose least text = .ok (bounds, left))
    (some : left ≠ []) :
    left.length ≤ text.length ∧ ∀ behind,
      boundsBehind verbose least (text ++ ')' :: behind) = .ok (bounds, left ++ ')' :: behind) := by
  unfold boundsBehind at read
  split at read
  · cases read
  · rename_i rest
    have shorter := length_skip_le verbose rest
    have goes (more : skip verbose rest ≠ []) (behind : Text) := skip_append more (')' :: behind)
    simp only [List.cons_append, boundsBehind, List.length_cons]
    generalize skip verbose rest = seen at read shorter goes
    split at read
    · cases read
    · obtain ⟨n, counted, made⟩ := bind_eq_ok.mp read
      cases made
      refine ⟨by omega, fun behind => ?_⟩
      rw [goes some, counted]
      rfl
    · rename_i more plain
      obtain ⟨n, counted, read⟩ := bind_eq_ok.mp read
      obtain ⟨m, counted', made⟩ := bind_eq_ok.mp read
      cases made
      have short := length_readCount_le verbose seen
      refine ⟨by omega, fun behind => ?_⟩
      rw [goes more]
      cases seen with
      | nil => exact absurd rfl more
      | cons c seen =>
        have onward := readCount_append some behind
        rw [List.cons_append] at onward ⊢
        split
        · contradiction
        · rename_i same
          cases same
          exact absurd rfl (plain seen)
        · rw [onward, counted, counted']
          rfl
  · rename_i more plain
    obtain ⟨n, counted, made⟩ := bind_eq_ok.mp read
    cases made
    refine ⟨Nat.le_refl _, fun behind => ?_⟩
    cases text with
    | nil => exact absurd rfl some
    | cons c text =>
      rw [List.cons_append, boundsBehind]
      · rw [counted]
        rfl
      · nofun
      · intro rest same
        cases same
        exact plain text rfl

theorem readCounts_append {verbose : Bool} {text left : Text} {bounds : Nat × Option Nat}
    (read : readCounts verbose text = .ok (bounds, left)) (some : left ≠ []) :
    left.length ≤ text.length ∧ ∀ behind,
      readCounts verbose (text ++ ')' :: behind) = .ok (bounds, left ++ ')' :: behind) := by
  by_cases nothing : skip verbose text = []
  · rw [readCounts, nothing] at read
    cases read
  · rw [readCounts_of_some nothing] at read
    obtain ⟨short, onward⟩ := boundsBehind_append read some
    have counted : (readCount verbose (skip verbose text)).2 ≠ [] := by
      intro none
      rw [none] at short
      exact some (List.length_eq_zero_iff.mp (Nat.le_zero.mp short))
    refine ⟨?_, fun behind => ?_⟩
    · have := length_readCount_le verbose (skip verbose text)
      have := length_skip_le verbose text
      omega
    · have goes := skip_append nothing (')' :: behind)
      rw [readCounts_of_some (by rw [goes]; simp), goes, readCount_append counted, onward]

/-- Whether a repetition is greedy, and what stands behind the sign that says so. -/
def greedBehind : Text → Bool × Text
  | '?' :: rest => (false, rest)
  | rest => (true, rest)

private theorem readCounted_of_counts {verbose : Bool} {text rest : Text} {least : Nat}
    {most : Option Nat} (counted : readCounts verbose text = .ok ((least, most), '\x7d' :: rest)) :
    readCounted verbose text =
      if most.any (· < least) then .error .countOrder
      else .ok ((least, most, (greedBehind (skip verbose rest)).1),
        (greedBehind (skip verbose rest)).2) := by
  simp only [readCounted, counted, bind, Except.bind]
  have same : greedBehind (skip verbose rest) = match skip verbose rest with
      | '?' :: rest => (false, rest)
      | rest => (true, rest) := rfl
  rw [same]
  split <;> rfl

theorem reads_greedBehind (verbose : Bool) (least : Nat) (most : Option Nat) (text : Text) :
    Reads verbose (fun text => .ok ((least, most, (greedBehind text).1), (greedBehind text).2)) text
      (least, most, (greedBehind text).1) (greedBehind text).2 := by
  by_cases question : ∃ rest, text = '?' :: rest
  · obtain ⟨rest, rfl⟩ := question
    exact ⟨Nat.le_succ _, .inl fun _ => rfl⟩
  · have greedy (behind : Text) : greedBehind (text ++ ')' :: behind) =
        (true, text ++ ')' :: behind) := by
      rw [greedBehind]
      intro rest same
      cases text with
      | nil => cases same
      | cons c text =>
        cases same
        exact question ⟨text, rfl⟩
    have alone : greedBehind text = (true, text) := by
      rw [greedBehind]
      exact fun rest same => question ⟨rest, same⟩
    rw [alone]
    refine ⟨Nat.le_refl _, .inl fun behind => ?_⟩
    dsimp only
    rw [greedy]

theorem reads_readCounted {verbose : Bool} {text left : Text} {count : Nat × Option Nat × Bool}
    (read : readCounted verbose text = .ok (count, left)) :
    Reads verbose (readCounted verbose) text count left := by
  obtain ⟨⟨⟨least, most⟩, rest⟩, counted, read'⟩ := bind_eq_ok.mp read
  dsimp only at read'
  split at read'
  · rename_i rest
    obtain ⟨short, onward⟩ := readCounts_append counted (List.cons_ne_nil _ _)
    rw [readCounted_of_counts counted] at read
    split at read
    · cases read
    · rename_i ordered
      have reads := Reads.skip rfl (reads_greedBehind verbose least most (skip verbose rest))
      cases read
      refine ⟨?_, ?_⟩
      · have := reads.1
        rw [List.length_cons] at short
        omega
      · have goes (behind : Text) := readCounted_of_counts (onward behind)
        simp only [goes, if_neg ordered]
        exact reads.2
  · cases read'

end LocaleLint.Pattern
