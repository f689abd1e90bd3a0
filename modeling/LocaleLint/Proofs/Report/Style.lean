import Mathlib
import LocaleLint.Proofs.Text.Splitting
import LocaleLint.Report.Style

/-!
# Lines with and without colours

What is left of coloured lines without their escape sequences are the lines without colours, as long
as the pieces themselves have no escape character. If they have no line feeds either, what is
written has the lines one after another.
-/

namespace LocaleLint

namespace StyledText

/-- The characters between the bracket and the letter of an escape sequence. -/
def isCode (c : Char) : Bool := c.isDigit || c = ';'

/-- What is left of a text behind the escape sequence that it starts with. -/
def behindSequence? : Text → Option Text
  | first :: '[' :: rest =>
    if first = escape then
      match rest.dropWhile isCode with
      | 'm' :: behind => some behind
      | _ => none
    else none
  | _ => none

theorem length_lt_of_behindSequence? {text behind : Text}
    (found : behindSequence? text = some behind) : behind.length < text.length := by
  unfold behindSequence? at found
  split at found
  · next first rest =>
    split_ifs at found
    split at found
    · next dropped =>
      cases found
      have shorter := (List.dropWhile_sublist isCode (l := rest)).length_le
      rw [dropped, List.length_cons] at shorter
      simp only [List.length_cons]
      omega
    · cases found
  · cases found

/-- A text without its escape sequences. -/
def eraseSequences : Text → Text
  | [] => []
  | c :: rest =>
    match _found : behindSequence? (c :: rest) with
    | some behind => eraseSequences behind
    | none => c :: eraseSequences rest
termination_by text => text.length
decreasing_by
  · exact length_lt_of_behindSequence? _found
  · exact Nat.lt_succ_self _

theorem eraseSequences_cons {c : Char} (other : c ≠ escape) (rest : Text) :
    eraseSequences (c :: rest) = c :: eraseSequences rest := by
  have none : behindSequence? (c :: rest) = none := by
    cases rest with
    | nil => rfl
    | cons d rest =>
      unfold behindSequence?
      split
      · next same =>
        cases same
        rw [if_neg other]
      · rfl
  rw [eraseSequences.eq_def]
  dsimp only
  split
  · next found => cases none.symm.trans found
  · rfl

/-- A text without escape characters stays. -/
theorem eraseSequences_append {s : Text} (clean : escape ∉ s) (rest : Text) :
    eraseSequences (s ++ rest) = s ++ eraseSequences rest := by
  induction s with
  | nil => rfl
  | cons c s ih =>
    rw [List.mem_cons, not_or] at clean
    rw [List.cons_append, eraseSequences_cons (Ne.symm clean.1), ih clean.2, List.cons_append]

/-- An escape sequence goes. -/
theorem eraseSequences_sequence {codes : Text} (numbers : ∀ c ∈ codes, isCode c = true)
    (rest : Text) :
    eraseSequences (escape :: '[' :: (codes ++ 'm' :: rest)) = eraseSequences rest := by
  have behind : behindSequence? (escape :: '[' :: (codes ++ 'm' :: rest)) = some rest := by
    rw [behindSequence?, if_pos rfl, List.dropWhile_append_of_pos numbers,
      List.dropWhile_cons_of_neg (by decide)]
    rfl
  rw [eraseSequences.eq_def]
  dsimp only
  split
  · next found =>
    cases behind.symm.trans found
    rfl
  · next found => cases behind.symm.trans found

theorem isCode_of_mem_codes (style : Style) : ∀ c ∈ style.codes, isCode c = true :=
  List.all_eq_true.mp (by cases style <;> rfl)

/-- Of a coloured piece its text is left. -/
theorem eraseSequences_render {span : StyledText} (clean : escape ∉ span.text) (rest : Text) :
    eraseSequences (span.render true ++ rest) = span.render false ++ eraseSequences rest := by
  obtain ⟨style, text⟩ := span
  cases style with
  | none => exact eraseSequences_append clean rest
  | some style =>
    have on (behind : Text) :
        eraseSequences (switchOn style ++ behind) = eraseSequences behind := by
      simpa [switchOn] using eraseSequences_sequence (isCode_of_mem_codes style) behind
    have off : eraseSequences (switchOff ++ rest) = eraseSequences rest :=
      @eraseSequences_sequence ['0'] (List.all_eq_true.mp rfl) rest
    change eraseSequences (switchOn style ++ text ++ switchOff ++ rest) =
      text ++ eraseSequences rest
    rw [List.append_assoc, List.append_assoc, on, eraseSequences_append clean, off]

end StyledText

namespace StyledLine

open StyledText

/-- Whether no piece of a line has a character. -/
def Avoids (c : Char) (line : StyledLine) : Prop := ∀ span ∈ line, c ∉ span.text

theorem avoids_nil {c : Char} : Avoids c [] := List.forall_mem_nil _

theorem avoids_cons {c : Char} {span : StyledText} {line : StyledLine} :
    Avoids c (span :: line) ↔ c ∉ span.text ∧ line.Avoids c :=
  List.forall_mem_cons

def text (line : StyledLine) : Text := line.flatMap (·.text)

theorem render_false (line : StyledLine) : line.render false = line.text ++ ['\n'] := by
  have each : StyledText.render false = (·.text) := by
    funext ⟨style, text⟩
    cases style <;> rfl
  rw [render, each, text]

theorem notMem_text {c : Char} {line : StyledLine} (avoids : line.Avoids c) : c ∉ line.text := by
  rw [text, List.mem_flatMap]
  rintro ⟨span, inside, among⟩
  exact avoids span inside among

theorem eraseSequences_flatMap {α : Type} {items : List α} {before after : α → Text}
    (each : ∀ item ∈ items, ∀ rest,
      eraseSequences (before item ++ rest) = after item ++ eraseSequences rest) (rest : Text) :
    eraseSequences (items.flatMap before ++ rest) = items.flatMap after ++ eraseSequences rest := by
  induction items with
  | nil => rfl
  | cons item items ih =>
    rw [List.flatMap_cons, List.flatMap_cons, List.append_assoc, List.append_assoc,
      each item List.mem_cons_self,
      ih fun other inside => each other (List.mem_cons_of_mem _ inside)]

/-- Lines are the same with and without colours, apart from the escape sequences. -/
theorem eraseSequences_renderAll {lines : List StyledLine}
    (clean : ∀ line ∈ lines, line.Avoids escape) :
    eraseSequences (renderAll true lines) = renderAll false lines := by
  have each : ∀ line ∈ lines, ∀ rest, eraseSequences (render true line ++ rest) =
      render false line ++ eraseSequences rest := by
    intro line inside rest
    rw [render, render, List.append_assoc, List.append_assoc,
      eraseSequences_flatMap fun span among => eraseSequences_render (clean line inside span among),
      eraseSequences_append (by decide)]
  have all := eraseSequences_flatMap each []
  rwa [List.append_nil, eraseSequences, List.append_nil] at all

/-- Lines without line feeds are those of what is written, which ends with a line feed. -/
theorem splitOn_renderAll {lines : List StyledLine} (clean : ∀ line ∈ lines, line.Avoids '\n') :
    Text.splitOn '\n' (renderAll false lines) = lines.map text ++ [[]] := by
  induction lines with
  | nil => rfl
  | cons line lines ih =>
    rw [renderAll, List.flatMap_cons, render_false, List.append_assoc, List.singleton_append,
      Text.splitOn_append (notMem_text (clean line List.mem_cons_self)), List.map_cons,
      List.cons_append]
    exact congrArg _ (ih fun other inside => clean other (List.mem_cons_of_mem _ inside))

end StyledLine

end LocaleLint
