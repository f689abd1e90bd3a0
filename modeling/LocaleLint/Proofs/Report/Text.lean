import Mathlib
import LocaleLint.Proofs.Report.Style
import LocaleLint.Proofs.Text.Numeral
import LocaleLint.Report.Text

/-!
# The layout of the text report

Colours do not move anything in a report, and its blocks stand below each other: the bars of all
source lines and the signs in front of all notes are in one column, behind the digits of the
greatest line number, and each caret stands below the column of its finding.
-/

namespace LocaleLint

def Finding.texts (f : Finding) : List Text :=
  f.key :: f.sourceFile :: f.sourceLine.toList ++ f.relatedFiles ++ f.suggestions

def Outcome.texts (outcome : Outcome) : List Text :=
  outcome.findings.flatMap Finding.texts ++ outcome.fixedFiles

namespace Report

open StyledText StyledLine

/-! ## Control characters

A report has no control characters but those of the texts of the outcome, and line feeds. -/

section

variable {c : Char} (control : c.toNat < 32)

include control

theorem notMem_of_visible {s : Text} (visible : s.all (32 ≤ ·.toNat) = true) : c ∉ s := by
  intro inside
  have := of_decide_eq_true (List.all_eq_true.mp visible c inside)
  omega

theorem notMem_ofNat (n : Nat) : c ∉ Text.ofNat n := by
  intro inside
  have := (Text.toNat_of_digit (Text.isDigits_ofNat n c inside)).1
  omega

theorem notMem_blanks (width : Nat) : c ∉ blanks width := by
  intro inside
  obtain rfl := List.eq_of_mem_replicate inside
  exact absurd control (by decide)

theorem notMem_joinWith {separator : Text} (visible : separator.all (32 ≤ ·.toNat) = true)
    {texts : List Text} (clean : ∀ s ∈ texts, c ∉ s) : c ∉ Text.joinWith separator texts := by
  induction texts with
  | nil => exact List.not_mem_nil
  | cons first rest ih =>
    have others := ih fun s inside => clean s (List.mem_cons_of_mem _ inside)
    cases rest with
    | nil => exact clean first List.mem_cons_self
    | cons second rest =>
      rw [Text.joinWith_cons_cons]
      exact List.not_mem_append (List.not_mem_append (clean first List.mem_cons_self)
        (notMem_of_visible control visible)) others

theorem notMem_details {f : Finding} (clean : ∀ s ∈ f.texts, c ∉ s) : c ∉ f.details := by
  have files : ∀ s ∈ f.relatedFiles, c ∉ s :=
    fun s inside => clean s (by simp [Finding.texts, inside])
  have keys : ∀ s ∈ f.suggestions, c ∉ s :=
    fun s inside => clean s (by simp [Finding.texts, inside])
  unfold Finding.details
  split
  · exact notMem_of_visible control rfl
  · split
    · exact notMem_of_visible control rfl
    · exact List.not_mem_append (notMem_of_visible control rfl) (notMem_joinWith control rfl files)
  · exact List.not_mem_append (notMem_of_visible control rfl) (notMem_joinWith control rfl keys)
  · exact notMem_of_visible control rfl

theorem notMem_cons {d : Char} (visible : 32 ≤ d.toNat) {s : Text} (clean : c ∉ s) :
    c ∉ d :: s := by
  rw [List.mem_cons, not_or]
  refine ⟨?_, clean⟩
  rintro rfl
  omega

theorem avoids_headLine {f : Finding} (clean : c ∉ f.key) : (headLine f).Avoids c := by
  have severity : c ∉ f.severity.name :=
    notMem_of_visible control (by cases f.severity <;> rfl)
  have rule : c ∉ f.rule.displayName := notMem_of_visible control (by cases f.rule <;> rfl)
  simp only [headLine, avoids_cons]
  refine ⟨severity, List.not_mem_append (List.not_mem_append ?_ clean) ?_, rule, avoids_nil⟩
  · exact notMem_of_visible control rfl
  · exact notMem_of_visible control rfl

theorem avoids_placeLine {f : Finding} (clean : c ∉ f.sourceFile) : (placeLine f).Avoids c := by
  have place : c ∉ placeText f := by
    unfold placeText
    split
    · exact clean
    · exact List.not_mem_append
        (List.not_mem_append clean (notMem_cons control (by decide) (notMem_ofNat control _)))
        (notMem_cons control (by decide) (notMem_ofNat control _))
  simp only [placeLine, avoids_cons]
  exact ⟨notMem_of_visible control rfl, notMem_of_visible control rfl,
    notMem_cons control (by decide) place, avoids_nil⟩

theorem avoids_sourceLines (measure : Text → Nat) (width : Nat) (severity : Severity)
    (location : Location) {sourceLine : Text} (clean : c ∉ sourceLine) :
    ∀ line ∈ sourceLines measure width severity location sourceLine, line.Avoids c := by
  have space : c ∉ [' '] := notMem_of_visible control rfl
  have bar : c ∉ ['|'] := notMem_of_visible control rfl
  have gutter : c ∉ blanks width ++ [' '] := List.not_mem_append (notMem_blanks control width) space
  simp only [sourceLines, List.forall_mem_cons, avoids_cons]
  refine ⟨⟨gutter, bar, avoids_nil⟩, ⟨?_, space, bar, ?_, avoids_nil⟩,
    ⟨gutter, bar, ?_, ?_, avoids_nil⟩, List.forall_mem_nil _⟩
  · exact List.not_mem_append (notMem_blanks control _) (notMem_ofNat control _)
  · exact notMem_cons control (by decide) clean
  · exact notMem_cons control (by decide) (notMem_blanks control _)
  · exact notMem_of_visible control rfl

theorem avoids_noteLine (width : Nat) {f : Finding} (clean : ∀ s ∈ f.texts, c ∉ s) :
    (noteLine width f).Avoids c := by
  have space : c ∉ [' '] := notMem_of_visible control rfl
  simp only [noteLine, avoids_cons]
  exact ⟨List.not_mem_append (notMem_blanks control width) space, notMem_of_visible control rfl,
    space, notMem_of_visible control rfl,
    notMem_cons control (by decide) (notMem_details control clean), avoids_nil⟩

theorem avoids_findingLines (measure : Text → Nat) (width : Nat) {f : Finding}
    (clean : ∀ s ∈ f.texts, c ∉ s) : ∀ line ∈ findingLines measure width f, line.Avoids c := by
  have head := avoids_headLine control (clean f.key (by simp [Finding.texts]))
  have place := avoids_placeLine control (clean f.sourceFile (by simp [Finding.texts]))
  have note := avoids_noteLine control width clean
  simp only [findingLines, List.cons_append, List.forall_mem_cons, List.forall_mem_append]
  refine ⟨head, place, ?_, note, avoids_nil, List.forall_mem_nil _⟩
  split
  · next location line _ known =>
    exact avoids_sourceLines control measure width f.severity location
      (clean line (by simp [Finding.texts, known]))
  · exact List.forall_mem_nil _

theorem avoids_fixedLines {files : List Text} (clean : ∀ s ∈ files, c ∉ s) :
    ∀ line ∈ fixedLines files, line.Avoids c := by
  unfold fixedLines
  split
  · exact List.forall_mem_nil _
  · simp only [List.cons_append, List.forall_mem_cons, List.forall_mem_append, List.forall_mem_map,
      avoids_cons]
    refine ⟨⟨notMem_of_visible control rfl, ?_, avoids_nil⟩,
      fun path inside => ⟨?_, avoids_nil⟩, avoids_nil, List.forall_mem_nil _⟩
    · exact List.not_mem_append (List.not_mem_append (notMem_of_visible control rfl)
        (notMem_ofNat control _)) (notMem_of_visible control rfl)
    · exact List.not_mem_append (notMem_of_visible control rfl) (clean path inside)

theorem avoids_budgetLine (outcome : Outcome) : (budgetLine outcome).Avoids c := by
  have budget : c ∉ "warning budget: ".toList ++ Text.ofNat outcome.warningCount ++
      " of ".toList ++ Text.ofNat outcome.maxWarnings ++ " allowed".toList :=
    List.not_mem_append (List.not_mem_append (List.not_mem_append (List.not_mem_append
      (notMem_of_visible control rfl) (notMem_ofNat control _)) (notMem_of_visible control rfl))
      (notMem_ofNat control _)) (notMem_of_visible control rfl)
  unfold budgetLine
  dsimp only
  split
  · simp only [avoids_cons]
    exact ⟨notMem_of_visible control rfl, budget, notMem_of_visible control rfl,
      notMem_of_visible control rfl, avoids_nil⟩
  · simp only [avoids_cons]
    exact ⟨List.not_mem_append (notMem_of_visible control rfl) budget, avoids_nil⟩

theorem avoids_countLine (outcome : Outcome) : (countLine outcome).Avoids c := by
  have number (n : Nat) : c ∉ Text.ofNat n ++ [' '] :=
    List.not_mem_append (notMem_ofNat control n) (notMem_of_visible control rfl)
  have word (n : Nat) {one : String} (visible : one.toList.all (32 ≤ ·.toNat) = true) :
      c ∉ counted n one := by
    unfold counted
    split
    · exact notMem_of_visible control visible
    · exact List.not_mem_append (notMem_of_visible control visible) (notMem_of_visible control rfl)
  simp only [countLine, avoids_cons]
  refine ⟨?_, ?_, word _ rfl, ?_, word _ rfl, notMem_of_visible control rfl, avoids_nil⟩
  · split <;> exact notMem_of_visible control rfl
  · rw [List.append_assoc]
    exact List.not_mem_append (List.not_mem_append
      (notMem_cons control (by decide) (notMem_ofNat control _))
      (notMem_of_visible control rfl)) (number _)
  · rw [List.append_assoc]
    exact List.not_mem_append (notMem_of_visible control rfl) (number _)

theorem avoids_summaryLines (outcome : Outcome) :
    ∀ line ∈ summaryLines outcome, line.Avoids c := by
  unfold summaryLines
  split
  · simp only [List.forall_mem_cons, avoids_cons]
    exact ⟨⟨notMem_of_visible control rfl, notMem_of_visible control rfl,
      notMem_of_visible control rfl, avoids_nil⟩, List.forall_mem_nil _⟩
  · refine List.forall_mem_cons.mpr ⟨avoids_countLine control outcome, ?_⟩
    split
    · exact List.forall_mem_cons.mpr ⟨avoids_budgetLine control outcome, List.forall_mem_nil _⟩
    · exact List.forall_mem_nil _

theorem avoids_lines (measure : Text → Nat) {outcome : Outcome}
    (clean : ∀ s ∈ outcome.texts, c ∉ s) : ∀ line ∈ lines measure outcome, line.Avoids c := by
  rw [Outcome.texts, List.forall_mem_append] at clean
  simp only [lines, List.forall_mem_append]
  refine ⟨⟨fun line inside => ?_, avoids_fixedLines control clean.2⟩,
    avoids_summaryLines control outcome⟩
  obtain ⟨f, among, inside⟩ := List.mem_flatMap.mp inside
  exact avoids_findingLines control measure _
    (fun s own => clean.1 s (List.mem_flatMap.mpr ⟨f, among, own⟩)) line inside

end

/-- Whether a width is that of the greatest line number of findings; it is 1 if none of them has a
line number. -/
def IsGutterWidth (findings : List Finding) (width : Nat) : Prop :=
  let located := findings.filterMap (·.location)
  located = [] ∧ width = 1 ∨
    ∃ greatest ∈ located, (∀ location ∈ located, location.line ≤ greatest.line) ∧
      width = (Text.ofNat greatest.line).length

theorem isGutterWidth (findings : List Finding) :
    IsGutterWidth findings (gutterWidth findings) := by
  have numbers : (findings.filterMap fun f => f.location.map (·.line)) =
      (findings.filterMap (·.location)).map (·.line) := List.map_filterMap.symm
  rw [IsGutterWidth, gutterWidth, numbers]
  cases most : ((findings.filterMap (·.location)).map (·.line)).max? with
  | none => exact .inl ⟨List.map_eq_nil_iff.mp (List.max?_eq_none_iff.mp most), rfl⟩
  | some line =>
    obtain ⟨inside, above⟩ := List.max?_eq_some_iff.mp most
    obtain ⟨greatest, located, rfl⟩ := List.mem_map.mp inside
    exact .inr ⟨greatest, located, fun location among => above _ (List.mem_map_of_mem among), rfl⟩

/-- All line numbers fit into the gutter. -/
theorem IsGutterWidth.fits {findings : List Finding} {width : Nat}
    (gutter : IsGutterWidth findings width) {f : Finding} (inside : f ∈ findings)
    {location : Location} (located : f.location = some location) :
    (Text.ofNat location.line).length ≤ width := by
  have among : location ∈ findings.filterMap (·.location) :=
    List.mem_filterMap.mpr ⟨f, inside, located⟩
  rcases gutter with ⟨none, -⟩ | ⟨greatest, -, above, rfl⟩
  · rw [none] at among
    cases among
  · exact Text.length_ofNat_le (above location among)

/-- A line whose first sign of a kind stands in a column, counted from 1, with a content behind
it. -/
def HasSign (sign : Char) (column : Nat) (content line : Text) : Prop :=
  ∃ gutter, line = gutter ++ sign :: content ∧ sign ∉ gutter ∧ gutter.length + 1 = column

/-- What the lines of the block of a finding are, with the measure of widths and the column in which
the bars and the sign of the note stand: below the bar of the source line there are as many spaces
behind that of the caret as the part of the line in front of the column of the finding is wide. -/
inductive IsBlock (measure : Text → Nat) (column : Nat) (f : Finding) : List Text → Prop
  | withSource {location : Location} {sourceLine bar source caret note : Text} :
    f.location = some location → f.sourceLine = some sourceLine →
    HasSign '|' column [] bar →
    HasSign '|' column (' ' :: sourceLine) source →
    HasSign '|' column (' ' :: List.replicate
      (measure (sourceLine.take (location.column - 1))) ' ' ++ ['^']) caret →
    HasSign '=' column (" note: ".toList ++ f.details) note →
    IsBlock measure column f [(headLine f).text, (placeLine f).text, bar, source, caret, note, []]
  | withoutSource {note : Text} :
    f.location = none ∨ f.sourceLine = none →
    HasSign '=' column (" note: ".toList ++ f.details) note →
    IsBlock measure column f [(headLine f).text, (placeLine f).text, note, []]

theorem length_padLeft {width : Nat} {s : Text} (fits : s.length ≤ width) :
    (padLeft width s).length = width := by
  rw [padLeft, List.length_append, List.length_replicate]
  omega

/-- A sign behind a gutter and a space. -/
theorem hasSign_gutter (sign : Char) {width : Nat} {gutter : Text}
    (length : gutter.length = width) (clean : sign ∉ gutter) (other : sign ≠ ' ')
    (content : Text) : HasSign sign (width + 2) content (gutter ++ ' ' :: sign :: content) := by
  refine ⟨gutter ++ [' '], by simp, ?_, by simp [length]⟩
  exact List.not_mem_append clean (by simpa using other)

theorem notMem_padLeft {sign : Char} (other : sign ≠ ' ') (digit : Text.digitValue? sign = none)
    (width n : Nat) : sign ∉ padLeft width (Text.ofNat n) := by
  refine List.not_mem_append (fun inside => other (List.eq_of_mem_replicate inside)) ?_
  intro inside
  have some := Text.isDigits_ofNat n sign inside
  rw [digit] at some
  cases some

theorem hasSign_blanks (sign : Char) (other : sign ≠ ' ') (width : Nat) (content : Text) :
    HasSign sign (width + 2) content (blanks width ++ ' ' :: sign :: content) :=
  hasSign_gutter sign List.length_replicate (fun inside => other (List.eq_of_mem_replicate inside))
    other content

theorem hasSign_noteLine (width : Nat) (f : Finding) :
    HasSign '=' (width + 2) (" note: ".toList ++ f.details) (noteLine width f).text := by
  have sign := hasSign_blanks '=' (by decide) width (" note: ".toList ++ f.details)
  simpa [noteLine, StyledLine.text, plain, styled] using sign

theorem isBlock_findingLines (measure : Text → Nat) {width : Nat} {f : Finding}
    (fits : ∀ location, f.location = some location →
      (Text.ofNat location.line).length ≤ width) :
    IsBlock measure (width + 2) f ((findingLines measure width f).map StyledLine.text) := by
  have note := hasSign_noteLine width f
  unfold findingLines
  cases located : f.location with
  | none => exact .withoutSource (.inl located) note
  | some location =>
    cases known : f.sourceLine with
    | none => exact .withoutSource (.inr known) note
    | some sourceLine =>
      -- the number is padded to the width and no wider than that, so its bar is below the others
      have number := hasSign_gutter '|' (length_padLeft (fits location located))
        (notMem_padLeft (by decide) (by decide) width _) (by decide) (' ' :: sourceLine)
      have bar (content : Text) := hasSign_blanks '|' (by decide) width content
      refine .withSource located known ?_ ?_ ?_ note
      · simpa [StyledLine.text, plain, styled] using bar []
      · simpa [StyledLine.text, plain, styled] using number
      · simpa [StyledLine.text, plain, styled, blanks, caretOffset] using bar _

/-- Whatever the widths of texts are, the coloured report is the plain one with escape sequences, if
the texts of the outcome have no escape character. If they have no line feed, the lines of the plain
report are the blocks of the findings in order, then the rest; in all blocks the bars and the signs
of the notes stand in one column, the second one behind the digits of the greatest line number, and
each caret stands behind as much room as the line takes in front of the column of the finding. -/
theorem text_aligned (measure : Text → Nat) (outcome : Outcome) :
    ((∀ s ∈ outcome.texts, escape ∉ s) →
      eraseSequences (textWith measure true outcome) = textWith measure false outcome) ∧
    ((∀ s ∈ outcome.texts, '\n' ∉ s) →
      ∃ width blocks, IsGutterWidth outcome.findings width ∧
        List.Forall₂ (IsBlock measure (width + 2)) outcome.findings blocks ∧
        Text.splitOn '\n' (textWith measure false outcome) = blocks.flatten ++
          ((fixedLines outcome.fixedFiles ++ summaryLines outcome).map StyledLine.text ++
            [[]])) := by
  refine ⟨fun clean => eraseSequences_renderAll (avoids_lines (by decide) measure clean),
    fun clean => ?_⟩
  have gutter := isGutterWidth outcome.findings
  refine ⟨gutterWidth outcome.findings, outcome.findings.map fun f =>
    (findingLines measure (gutterWidth outcome.findings) f).map StyledLine.text, gutter, ?_, ?_⟩
  · rw [List.forall₂_map_right_iff, List.forall₂_same]
    exact fun f inside => isBlock_findingLines measure fun location located =>
      gutter.fits inside located
  · rw [textWith, splitOn_renderAll (avoids_lines (by decide) measure clean), lines,
      List.append_assoc, List.map_append, List.append_assoc, List.map_flatMap, List.flatMap_def]

/-- A key behind a character that takes no room, a key with a long line number and no source line,
and a key without a place. -/
def uneven : Outcome where
  findings :=
    [⟨"A.b".toList, .absent, .error, "a.html".toList, ["de.json".toList, "fr.json".toList], [],
        some ⟨9, 5⟩, some "x\ufe0f 'A.b'".toList⟩,
      ⟨"C".toList, .zombie, .warning, "en.json".toList, [], [], some ⟨1024, 1⟩, none⟩,
      ⟨"D".toList, .misprint, .warning, "b.ts".toList, [], ["E".toList], none, some "D".toList⟩]
  maxWarnings := 1
  fixedFiles := ["en.json".toList]

set_option maxRecDepth 100000 in
theorem text_aligned_uneven :
    (∀ s ∈ uneven.texts, escape ∉ s ∧ '\n' ∉ s) ∧
      eraseSequences (text true uneven) = text false uneven ∧
      (∃ width blocks, IsGutterWidth uneven.findings width ∧
        List.Forall₂ (IsBlock Text.displayWidth (width + 2)) uneven.findings blocks ∧
        Text.splitOn '\n' (text false uneven) = blocks.flatten ++
          ((fixedLines uneven.fixedFiles ++ summaryLines uneven).map StyledLine.text ++ [[]])) ∧
      ((Text.splitOn '\n' (text false uneven)).take 13 = List.map String.toList
        ["error: \"A.b\"  key-on-view",
          "  --> a.html:9:5",
          "     |",
          "   9 | x\ufe0f 'A.b'",
          "     |    ^",
          "     = note: missing in: de.json, fr.json",
          "",
          "warning: \"C\"  zombie-key",
          "  --> en.json:1024:1",
          "     = note: not used in any view",
          "",
          "warning: \"D\"  misprint-key",
          "  --> b.ts"]) := by
  have clean : ∀ s ∈ uneven.texts, escape ∉ s ∧ '\n' ∉ s := by decide +kernel
  obtain ⟨colours, layout⟩ := text_aligned Text.displayWidth uneven
  refine ⟨clean, ?_, ?_, by decide +kernel⟩
  · exact colours fun s inside => (clean s inside).1
  · exact layout fun s inside => (clean s inside).2

end Report

end LocaleLint
