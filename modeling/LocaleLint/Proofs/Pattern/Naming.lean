import Mathlib
import LocaleLint.Proofs.Pattern.Choice

/-!
# The names of groups

Reading a pattern notes the names of its groups. A name that is taken stops the reading, and that is
all that the names do: with other names taken, an opening parenthesis is read the same or refused.
-/

namespace LocaleLint.Pattern

def Taken (names taken : List Text) : Prop := ∃ name ∈ names, name ∈ taken

instance (names taken : List Text) : Decidable (Taken names taken) :=
  inferInstanceAs (Decidable (∃ name ∈ names, name ∈ taken))

theorem taken_append_left {names names' taken : List Text} :
    Taken (names ++ names') taken ↔ Taken names taken ∨ Taken names' taken := by
  simp only [Taken, List.mem_append, or_and_right, exists_or]

theorem taken_append_right {names taken taken' : List Text} :
    Taken names (taken ++ taken') ↔ Taken names taken ∨ Taken names taken' := by
  simp only [Taken, List.mem_append, and_or_left, exists_or]

/-- The name that an opening parenthesis gives. -/
def Opener.names : Opener → List Text
  | .capture name => name.toList
  | _ => []

/-- Refuses an opening parenthesis that gives a name that is taken. -/
def refuse (taken : List Text) (found : Opener × Text) : Except Fault (Opener × Text) :=
  if Taken found.1.names taken then .error .groupNameDuplicate else .ok found

theorem readName_eq (names : List Text) (text : Text) :
    readName names text = (readName [] text).bind (refuse names) := by
  unfold readName
  cases readGroupName true text with
  | error fault => rfl
  | ok found =>
    obtain ⟨name, rest⟩ := found
    by_cases empty : name.isEmpty
    · simp [bind, Except.bind, empty, throw, throwThe, MonadExceptOf.throw]
    · by_cases taken : name ∈ names
      · simp [bind, Except.bind, empty, taken, throw, throwThe, MonadExceptOf.throw, refuse, Taken,
          Opener.names, pure, Except.pure]
      · simp [bind, Except.bind, empty, taken, refuse, Taken, Opener.names, pure, Except.pure]

theorem readQuestion_eq (names : List Text) (text : Text) :
    readQuestion names text = (readQuestion [] text).bind (refuse names) := by
  unfold readQuestion
  split
  iterate 4
    · rfl
  · exact readName_eq names _
  · exact readName_eq names _
  · rfl
  · cases flags : readFlags [] false false text with
    | error fault => rfl
    | ok found =>
      obtain ⟨changes, rest⟩ := found
      have free : ∀ opener : Opener, ∀ left, opener.names = [] →
          refuse names (opener, left) = .ok (opener, left) := by
        intro opener left none
        rw [refuse, none, if_neg (by simp [Taken])]
      simp only [bind, Except.bind]
      split
      · exact (free _ _ rfl).symm
      · rfl
      · exact (free _ _ rfl).symm

theorem readOpener_eq (verbose : Bool) (names : List Text) (text : Text) :
    readOpener verbose names text = (readOpener verbose [] text).bind (refuse names) := by
  unfold readOpener
  split
  · exact readQuestion_eq names _
  · rw [Except.bind, refuse, if_neg (by simp [Taken, Opener.names])]

namespace Reading

/-- A step keeps the names that have been noted, and only an opening parenthesis notes one. -/
theorem names_step {reading next : Reading} {c : Char} {rest : Text}
    (stepped : reading.step c rest = .ok next) :
    ∃ noted, next.names = reading.names ++ noted ∧ (c ≠ '(' → noted = []) := by
  unfold step at stepped
  split at stepped
  · obtain ⟨⟨opener, left⟩, -, made⟩ := bind_eq_ok.mp stepped
    refine ⟨opener.names, ?_, fun other => absurd rfl other⟩
    cases opener with
    | capture name =>
      cases made
      rfl
    | _ =>
      cases made
      exact (List.append_nil _).symm
  all_goals refine ⟨[], (List.append_nil _).symm ▸ ?_, fun _ => rfl⟩
  · unfold closeGroup at stepped
    split at stepped <;> cases stepped
    rfl
  · cases stepped
    rfl
  · obtain ⟨found, -, rfl⟩ := map_eq_ok.mp stepped
    rfl
  iterate 3
    · obtain ⟨last, -, made⟩ := bind_eq_ok.mp stepped
      cases made
      rfl
  · obtain ⟨last, -, made⟩ := bind_eq_ok.mp stepped
    obtain ⟨count, -, made⟩ := bind_eq_ok.mp made
    cases made
    rfl
  · obtain ⟨found, -, rfl⟩ := map_eq_ok.mp stepped
    rfl
  all_goals
    cases stepped
    rfl

theorem names_finish {reading final : Reading} (finished : reading.finish = .ok final) :
    reading.names ⊆ final.names := by
  refine finish_preserves (motive := fun later => reading.names ⊆ later.names) ?_
    (List.Subset.refl _) finished
  intro later c rest next stepped kept
  obtain ⟨noted, names, -⟩ := names_step stepped
  rw [names]
  exact List.subset_append_of_subset_left _ kept

end Reading

end LocaleLint.Pattern
