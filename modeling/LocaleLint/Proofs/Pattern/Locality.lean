import Mathlib
import LocaleLint.Pattern.Reader
import LocaleLint.Proofs.Except

/-!
# What the readers of patterns look at

A reader that leaves a part of a text does not look at what stands behind that part, so the text may
go on differently there. At the end of a text, a closing parenthesis may follow, unless a comment
hides it.
-/

namespace LocaleLint.Pattern

/-! ## White space and comments -/

theorem skipBlank_append {comment : Bool} {text : Text} (some : skipBlank comment text ≠ [])
    (behind : Text) : skipBlank comment (text ++ behind) = skipBlank comment text ++ behind := by
  induction text generalizing comment with
  | nil => cases comment <;> exact absurd rfl some
  | cons c rest ih =>
    cases comment with
    | true => exact ih some
    | false =>
      rw [List.cons_append, skipBlank, skipBlank]
      rw [skipBlank] at some
      split
      · rename_i white
        rw [if_pos white] at some
        exact ih some
      · rename_i black
        rw [if_neg black] at some
        split
        · rename_i opens
          rw [if_pos opens] at some
          exact ih some
        · rfl

theorem length_skipBlank_le (comment : Bool) (text : Text) :
    (skipBlank comment text).length ≤ text.length := by
  induction text generalizing comment with
  | nil => cases comment <;> exact Nat.le_refl _
  | cons c rest ih =>
    cases comment with
    | true => exact Nat.le_succ_of_le (ih _)
    | false =>
      rw [skipBlank]
      split
      · exact Nat.le_succ_of_le (ih _)
      · split
        · exact Nat.le_succ_of_le (ih _)
        · exact Nat.le_refl _

/-- A parenthesis behind white space and comments is seen, unless a comment is open. -/
theorem skipBlank_end {comment : Bool} {text : Text} (none : skipBlank comment text = []) :
    (∀ behind, skipBlank comment (text ++ ')' :: behind) = ')' :: behind) ∨
      skipBlank comment (text ++ [')']) = [] := by
  induction text generalizing comment with
  | nil =>
    cases comment with
    | true => exact .inr rfl
    | false => exact .inl fun _ => rfl
  | cons c rest ih =>
    cases comment with
    | true => exact ih none
    | false =>
      rw [skipBlank] at none
      simp only [List.cons_append, skipBlank]
      split
      · rename_i white
        rw [if_pos white] at none
        exact ih none
      · rename_i black
        rw [if_neg black] at none
        split
        · rename_i opens
          rw [if_pos opens] at none
          exact ih none
        · rename_i plain
          rw [if_neg plain] at none
          cases none

theorem skip_append {verbose : Bool} {text : Text} (some : skip verbose text ≠ [])
    (behind : Text) : skip verbose (text ++ behind) = skip verbose text ++ behind := by
  cases verbose with
  | true => exact skipBlank_append some behind
  | false => rfl

theorem length_skip_le (verbose : Bool) (text : Text) :
    (skip verbose text).length ≤ text.length := by
  cases verbose with
  | true => exact length_skipBlank_le false text
  | false => exact Nat.le_refl _

@[simp] theorem skip_nil (verbose : Bool) : skip verbose [] = [] := by
  cases verbose <;> rfl

theorem skip_end {verbose : Bool} {text : Text} (none : skip verbose text = []) :
    (∀ behind, skip verbose (text ++ ')' :: behind) = ')' :: behind) ∨
      verbose = true ∧ skip verbose (text ++ [')']) = [] := by
  cases verbose with
  | true => exact (skipBlank_end none).imp_right (And.intro rfl)
  | false =>
    rw [show text = [] from none]
    exact .inl fun _ => rfl

/-- A character that verbose mode does not leave out. -/
def Solid (verbose : Bool) (c : Char) : Prop := verbose → ¬ Text.isWhite c ∧ c ≠ '#'

theorem Solid.skip {verbose : Bool} {c : Char} (solid : Solid verbose c) (rest : Text) :
    skip verbose (c :: rest) = c :: rest := by
  cases verbose with
  | true =>
    obtain ⟨black, plain⟩ := solid rfl
    rw [Pattern.skip, if_pos rfl, skipBlank, if_neg black, if_neg plain]
  | false => rfl

theorem solid_of_skipBlank {comment : Bool} {text rest : Text} {c : Char}
    (skipped : skipBlank comment text = c :: rest) : ¬ Text.isWhite c ∧ c ≠ '#' := by
  induction text generalizing comment with
  | nil => cases comment <;> cases skipped
  | cons d text ih =>
    cases comment with
    | true => exact ih skipped
    | false =>
      rw [skipBlank] at skipped
      split at skipped
      · exact ih skipped
      · rename_i black
        split at skipped
        · exact ih skipped
        · rename_i plain
          cases skipped
          exact ⟨black, plain⟩

theorem solid_of_skip {verbose : Bool} {text rest : Text} {c : Char}
    (skipped : skip verbose text = c :: rest) : Solid verbose c := by
  rintro rfl
  exact solid_of_skipBlank skipped

@[simp] theorem skip_skip (verbose : Bool) (text : Text) :
    skip verbose (skip verbose text) = skip verbose text := by
  cases skipped : skip verbose text with
  | nil => exact skip_nil verbose
  | cons c rest => exact (solid_of_skip skipped).skip rest

theorem length_spanSkipping_le (verbose : Bool) (p : Char → Bool) (fuel : Nat) (text : Text) :
    (spanSkipping verbose p fuel text).2.length ≤ text.length := by
  induction fuel generalizing text with
  | zero => exact Nat.le_refl _
  | succ fuel ih =>
    cases text with
    | nil => exact Nat.le_refl _
    | cons c rest =>
      rw [spanSkipping]
      split
      · have := ih (skip verbose rest)
        have := length_skip_le verbose rest
        dsimp only
        rw [List.length_cons]
        omega
      · exact Nat.le_refl _

theorem spanSkipping_append {verbose : Bool} {p : Char → Bool} {fuel : Nat} {text : Text}
    (enough : text.length ≤ fuel) (some : (spanSkipping verbose p fuel text).2 ≠ [])
    (behind : Text) {fuel' : Nat} (enough' : (text ++ behind).length ≤ fuel') :
    spanSkipping verbose p fuel' (text ++ behind) =
      ((spanSkipping verbose p fuel text).1, (spanSkipping verbose p fuel text).2 ++ behind) := by
  induction fuel generalizing text fuel' with
  | zero =>
    rw [List.length_eq_zero_iff.mp (Nat.le_zero.mp enough)] at some
    exact absurd rfl some
  | succ fuel ih =>
    cases text with
    | nil => exact absurd rfl some
    | cons c rest =>
      cases fuel' with
      | zero => cases enough'
      | succ fuel' =>
        rw [spanSkipping] at some
        rw [List.cons_append, spanSkipping, spanSkipping]
        by_cases takes : p c
        · rw [if_pos takes] at some
          rw [if_pos takes, if_pos takes]
          have more : skip verbose rest ≠ [] := by
            intro none
            rw [none] at some
            cases fuel <;> exact some rfl
          have shorter := length_skip_le verbose rest
          rw [List.length_cons] at enough
          rw [List.cons_append, List.length_cons, List.length_append] at enough'
          have enough'' : (skip verbose rest ++ behind).length ≤ fuel' := by
            rw [List.length_append]
            omega
          have later := ih (by omega) some enough''
          rw [skip_append more, later]
        · rw [if_neg takes, if_neg takes]
          rfl

theorem takeSkipping_append {verbose : Bool} {p : Char → Bool} {text taken after : Text}
    (took : takeSkipping verbose p text = (taken, after)) (some : after ≠ []) (behind : Text) :
    takeSkipping verbose p (text ++ behind) = (taken, after ++ behind) := by
  unfold takeSkipping at took ⊢
  rw [spanSkipping_append (Nat.le_refl _) (by rw [took]; exact some) behind (Nat.le_refl _), took]

theorem length_takeSkipping_le {verbose : Bool} {p : Char → Bool} {text taken after : Text}
    (took : takeSkipping verbose p text = (taken, after)) : after.length ≤ text.length := by
  have := length_spanSkipping_le verbose p text.length text
  rw [show spanSkipping verbose p text.length text = (taken, after) from took] at this
  exact this

/-! ## Readers -/

/-- A reader leaves a part of a text, and does the same where a closing parenthesis follows, unless
a comment at the end of the text hides it, as it can in verbose mode. -/
def Reads (verbose : Bool) {α : Type} (reader : Text → Except Fault (α × Text)) (text : Text)
    (value : α) (left : Text) : Prop :=
  left.length ≤ text.length ∧
    ((∀ behind, reader (text ++ ')' :: behind) = .ok (value, left ++ ')' :: behind)) ∨
      (verbose = true ∧ left = [] ∧ reader (text ++ [')']) = .ok (value, [])))

section
variable {α β : Type} {verbose : Bool} {reader : Text → Except Fault (α × Text)}
  {text left : Text} {value : α}

theorem Reads.cons {c : Char} (reads : Reads verbose (fun text => reader (c :: text)) text value left) :
    Reads verbose reader (c :: text) value left :=
  ⟨Nat.le_succ_of_le reads.1, reads.2⟩

/-- What is left at the end of a text is nothing. -/
theorem Reads.eq_nil (reads : Reads verbose reader [] value left) : left = [] :=
  List.length_eq_zero_iff.mp (Nat.le_zero.mp reads.1)

theorem Reads.skip (read : reader (skip verbose text) = .ok (value, left))
    (reads : Reads verbose reader (skip verbose text) value left) :
    Reads verbose (fun text => reader (Pattern.skip verbose text)) text value left := by
  refine ⟨Nat.le_trans reads.1 (length_skip_le verbose text), ?_⟩
  dsimp only
  by_cases none : Pattern.skip verbose text = []
  · rcases skip_end none with seen | hidden
    · rw [none] at reads
      rcases reads.2 with same | ⟨mode, rfl, same⟩
      · exact .inl fun behind => by rw [seen]; exact same behind
      · refine .inr ⟨mode, rfl, ?_⟩
        rw [seen]
        exact same
    · rw [none] at reads read
      rw [reads.eq_nil] at read ⊢
      refine .inr ⟨hidden.1, rfl, ?_⟩
      rw [hidden.2]
      exact read
  · rcases reads.2 with same | ⟨mode, rfl, same⟩
    · exact .inl fun behind => by rw [skip_append none]; exact same behind
    · refine .inr ⟨mode, rfl, ?_⟩
      rw [skip_append none]
      exact same

/-- A reader that goes on behind another one. -/
theorem Reads.after {whole next : Text → Except Fault (β × Text)} {result : β} {rest : Text}
    (first : Reads verbose reader text value left)
    (same : ∀ behind left, reader (text ++ behind) = .ok (value, left) →
      whole (text ++ behind) = next left)
    (read : next left = .ok (result, rest)) (second : Reads verbose next left result rest) :
    Reads verbose whole text result rest := by
  refine ⟨Nat.le_trans second.1 first.1, ?_⟩
  rcases first.2 with goes | ⟨mode, rfl, goes⟩
  · rcases second.2 with goes' | ⟨mode, rfl, goes'⟩
    · exact .inl fun behind => by rw [same _ _ (goes behind)]; exact goes' behind
    · exact .inr ⟨mode, rfl, by rw [same _ _ (goes [])]; exact goes'⟩
  · rw [second.eq_nil] at read ⊢
    exact .inr ⟨mode, rfl, by rw [same _ _ goes]; exact read⟩

/-- A reader that takes nothing. -/
theorem Reads.refl {value : α} : Reads verbose (fun text => .ok (value, text)) text value text :=
  ⟨Nat.le_refl _, .inl fun _ => rfl⟩

/-- A reader that takes white space and comments. -/
theorem Reads.blank {value : α} :
    Reads verbose (fun text => .ok (value, Pattern.skip verbose text)) text value
      (Pattern.skip verbose text) :=
  Reads.skip rfl .refl

end

/-- A reader that goes on behind the characters of a kind that stand in front of a text, where some
other character stops them. -/
theorem Reads.taking {α : Type} {verbose : Bool} {p : Char → Bool}
    {reader after : Text → Except Fault (α × Text)} {text taken rest left : Text} {value : α}
    {stop : Char}
    (took : takeSkipping verbose p (Pattern.skip verbose text) = (taken, stop :: rest))
    (same : ∀ text rest,
      takeSkipping verbose p (Pattern.skip verbose text) = (taken, stop :: rest) →
      reader text = after rest)
    (reads : Reads verbose after rest value left) : Reads verbose reader text value left := by
  have more : Pattern.skip verbose text ≠ [] := by
    intro none
    rw [none] at took
    cases took
  have onward (behind : Text) : reader (text ++ behind) = after (rest ++ behind) := by
    refine same _ _ ?_
    rw [skip_append more, takeSkipping_append took (List.cons_ne_nil _ _)]
    rfl
  have short := length_takeSkipping_le took
  have shorter := length_skip_le verbose text
  rw [List.length_cons] at short
  refine ⟨by have := reads.1; omega, ?_⟩
  rcases reads.2 with goes | ⟨mode, none, goes⟩
  · exact .inl fun behind => by rw [onward]; exact goes behind
  · exact .inr ⟨mode, none, by rw [onward]; exact goes⟩

/-- A reader to which white space and comments in front of a text are nothing. -/
theorem Reads.of_solid (verbose : Bool) {α : Type} {reader : Text → Except Fault (α × Text)}
    {text left : Text} {value : α}
    (blind : ∀ text, reader (Pattern.skip verbose text) = reader text)
    (read : reader text = .ok (value, left)) {fault : Fault} (nothing : reader [] = .error fault)
    (each : ∀ c rest, Solid verbose c → reader (c :: rest) = .ok (value, left) →
      Reads verbose reader (c :: rest) value left) :
    Reads verbose reader text value left := by
  have reads : Reads verbose reader (Pattern.skip verbose text) value left := by
    rw [← blind] at read
    cases skipped : Pattern.skip verbose text with
    | nil =>
      rw [skipped, nothing] at read
      cases read
    | cons c rest =>
      rw [skipped] at read
      exact each c rest (solid_of_skip skipped) read
  have same : (fun text => reader (Pattern.skip verbose text)) = reader := funext blind
  rw [← same]
  exact .skip (by rw [blind]; exact read) reads

/-! ## Escapes -/

theorem reads_readHexDigits {verbose : Bool} {count value : Nat} {text left : Text} {n : Nat}
    (read : readHexDigits verbose count value text = .ok (n, left)) :
    Reads verbose (readHexDigits verbose count value) text n left := by
  induction count generalizing value text with
  | zero =>
    cases read
    exact .refl
  | succ count ih =>
    cases text with
    | nil => cases read
    | cons c rest =>
      apply Reads.cons
      simp only [readHexDigits] at read ⊢
      cases digit : hexValue? c with
      | none =>
        rw [digit] at read
        cases read
      | some d =>
        rw [digit] at read
        exact .skip read (ih read)

private theorem readHex_of_ne {verbose : Bool} {count : Nat} {c : Char} (solid : Solid verbose c)
    (other : c ≠ '\x7b') (rest : Text) :
    readHex verbose count (c :: rest) = (do
      let (value, rest) ← readHexDigits verbose count 0 (c :: rest)
      match scalar? value with
      | none => throw .hexNotScalar
      | some c => return (.literal ⟨c, count == 2⟩, rest)) := by
  rw [readHex, solid.skip]
  split
  · contradiction
  · rename_i brace
    cases brace
    exact absurd rfl other
  · rfl

theorem reads_readHex {verbose : Bool} {count : Nat} {text left : Text} {primitive : Primitive}
    (read : readHex verbose count text = .ok (primitive, left)) :
    Reads verbose (readHex verbose count) text primitive left := by
  refine .of_solid verbose (fun text => by simp only [readHex, skip_skip]) read
    (by rw [readHex, skip_nil]) ?_
  intro c rest solid read
  by_cases brace : c = '\x7b'
  · subst brace
    apply Reads.cons
    simp only [readHex, solid.skip] at read ⊢
    cases took : takeSkipping verbose (· ≠ '\x7d') (skip verbose rest) with
    | mk digits after =>
      simp only [took] at read
      split at read
      · cases read
      · rename_i all
        split at read
        · cases read
        · rename_i stop after
          split at read
          · cases read
          · rename_i filled
            split at read
            · cases read
            · rename_i number
              cases read
              refine .taking took (fun text rest took => ?_) (@Reads.blank _ _ after _)
              simp only [took, all, filled, number, Bool.false_eq_true, if_false]
  · rw [readHex_of_ne solid brace, bind_eq_ok] at read
    obtain ⟨⟨value, rest'⟩, digits, found⟩ := read
    dsimp only at found
    split at found
    · cases found
    · rename_i number
      cases found
      refine .after (reads_readHexDigits digits) (fun behind rest digits => ?_) rfl Reads.refl
      rw [List.cons_append] at digits ⊢
      simp only [readHex_of_ne solid brace, digits, bind, Except.bind, number]
      rfl

private theorem readProperty_of_ne {verbose negated : Bool} {c : Char} (solid : Solid verbose c)
    (other : c ≠ '\x7b') (rest : Text) :
    readProperty verbose negated (c :: rest) =
      if c = '\\' then .error .propertyMalformed
      else .ok (.property (.named [c]) negated, skip verbose rest) := by
  rw [readProperty, solid.skip]
  split
  · contradiction
  · rename_i brace
    cases brace
    exact absurd rfl other
  · rename_i same
    cases same
    rfl

theorem reads_readProperty {verbose negated : Bool} {text left : Text} {primitive : Primitive}
    (read : readProperty verbose negated text = .ok (primitive, left)) :
    Reads verbose (readProperty verbose negated) text primitive left := by
  refine .of_solid verbose (fun text => by simp only [readProperty, skip_skip]) read
    (by rw [readProperty, skip_nil]) ?_
  intro c rest solid read
  apply Reads.cons
  by_cases brace : c = '\x7b'
  · subst brace
    simp only [readProperty, solid.skip] at read ⊢
    cases took : takeSkipping verbose (· ≠ '\x7d') (skip verbose rest) with
    | mk content after =>
      simp only [took] at read
      split at read
      · cases read
      · cases read
        refine .taking took (fun text rest took => ?_) (@Reads.refl _ _ left _)
        simp only [took]
  · simp only [readProperty_of_ne solid brace] at read ⊢
    split at read
    · cases read
    · rename_i plain
      cases read
      simp only [plain, if_false]
      exact .blank

/-- A text that does not begin with an opening brace. -/
private def Braceless (text : Text) : Prop := ∀ inside, text ≠ '\x7b' :: inside

private theorem readBoundary_of_braceless {verbose : Bool} {text : Text} (plain : Braceless text) :
    readBoundary verbose text = .ok (.assertion .wordBoundary, text) := by
  rw [readBoundary]
  exact plain

theorem reads_readBoundary {verbose : Bool} {text left : Text} {primitive : Primitive}
    (read : readBoundary verbose text = .ok (primitive, left)) :
    Reads verbose (readBoundary verbose) text primitive left := by
  by_cases brace : ∃ inside, text = '\x7b' :: inside
  · obtain ⟨inside, rfl⟩ := brace
    rw [readBoundary] at read
    cases skipped : skip verbose inside with
    | nil =>
      rw [skipped] at read
      cases read
    | cons c more =>
      have onward (behind : Text) : skip verbose (inside ++ behind) = c :: (more ++ behind) := by
        rw [skip_append (by simp [skipped]), skipped]
        rfl
      rw [skipped] at read
      dsimp only at read
      split at read
      · rename_i other
        cases read
        refine ⟨Nat.le_refl _, .inl fun behind => ?_⟩
        simp only [List.cons_append, readBoundary, onward, other, if_true]
      · rename_i letter
        cases took : takeSkipping verbose isBoundaryLetter (c :: more) with
        | mk name after =>
          rw [took] at read
          dsimp only at read
          split at read
          · rename_i rest
            split at read
            · rename_i kind known
              cases read
              have short := length_takeSkipping_le took
              have shorter := length_skip_le verbose inside
              rw [skipped] at shorter
              have later (behind : Text) := takeSkipping_append took (List.cons_ne_nil _ _) behind
              refine ⟨?_, .inl fun behind => ?_⟩
              · rw [List.length_cons] at short ⊢
                omega
              · simp only [List.cons_append] at later
                simp only [List.cons_append, readBoundary, onward, letter, later, known,
                  Bool.false_eq_true, if_false]
            · cases read
          · cases read
  · have plain : Braceless text := fun inside same => brace ⟨inside, same⟩
    rw [readBoundary_of_braceless plain] at read
    cases read
    refine ⟨Nat.le_refl _, .inl fun behind => ?_⟩
    apply readBoundary_of_braceless
    intro inside same
    cases text with
    | nil => cases same
    | cons c text =>
      cases same
      exact plain _ rfl

theorem reads_readEscape {verbose : Bool} {text left : Text} {primitive : Primitive}
    (read : readEscape verbose text = .ok (primitive, left)) :
    Reads verbose (readEscape verbose) text primitive left := by
  cases text with
  | nil => cases read
  | cons c rest =>
    apply Reads.cons
    simp only [readEscape] at read ⊢
    by_cases digit : c.isDigit
    · rw [if_pos digit] at read
      cases read
    simp only [if_neg digit] at read ⊢
    by_cases byte : c = 'x'
    · simp only [if_pos byte] at read ⊢
      exact reads_readHex read
    simp only [if_neg byte] at read ⊢
    by_cases short : c = 'u'
    · simp only [if_pos short] at read ⊢
      exact reads_readHex read
    simp only [if_neg short] at read ⊢
    by_cases long : c = 'U'
    · simp only [if_pos long] at read ⊢
      exact reads_readHex read
    simp only [if_neg long] at read ⊢
    by_cases property : c = 'p'
    · simp only [if_pos property] at read ⊢
      exact reads_readProperty read
    simp only [if_neg property] at read ⊢
    by_cases without : c = 'P'
    · simp only [if_pos without] at read ⊢
      exact reads_readProperty read
    simp only [if_neg without] at read ⊢
    by_cases boundary : c = 'b'
    · simp only [if_pos boundary] at read ⊢
      exact reads_readBoundary read
    simp only [if_neg boundary] at read ⊢
    split at read
    · cases read
      exact .refl
    · split at read
      · rename_i means
        cases read
        simp only [means, if_true]
        exact .refl
      · cases read

end LocaleLint.Pattern
