import LocaleLint.Finding.Outcome
import LocaleLint.Report.Style
import LocaleLint.Text.Width

/-!
# The text report

One block of lines for each finding, with the line of the source and a caret below the key where
they are known, and a summary. The bars of all blocks stand in one column, behind a gutter that is
as wide as the greatest line number. How wide a text is on the screen is given as a measure.
-/

namespace LocaleLint.Report

open StyledText

def successMark : Text := ['\u2713']

def failureMark : Text := ['\u2718']

/-- A text with spaces in front of it up to a width. -/
def padLeft (width : Nat) (text : Text) : Text :=
  List.replicate (width - text.length) ' ' ++ text

def blanks (width : Nat) : Text := List.replicate width ' '

/-- The width of the gutter: that of the greatest line number of the findings. -/
def gutterWidth (findings : List Finding) : Nat :=
  match (findings.filterMap fun f => f.location.map (·.line)).max? with
  | none => 1
  | some line => (Text.ofNat line).length

def severityStyle : Severity → Style
  | .error => .boldRed
  | .warning => .boldYellow

def caretStyle : Severity → Style
  | .error => .red
  | .warning => .yellow

/-- The first line of a block: the severity, the key and the rule. -/
def headLine (f : Finding) : StyledLine :=
  [styled (severityStyle f.severity) f.severity.name,
    plain (": \"".toList ++ f.key ++ "\"  ".toList),
    styled .dimCyan f.rule.displayName]

def placeText (f : Finding) : Text :=
  match f.location with
  | none => f.sourceFile
  | some location =>
    f.sourceFile ++ ':' :: Text.ofNat location.line ++ ':' :: Text.ofNat location.column

/-- The second line of a block: where the finding is. -/
def placeLine (f : Finding) : StyledLine :=
  [plain "  ".toList, styled .blue "-->".toList, plain (' ' :: placeText f)]

/-- How far to the right a caret stands: as far as the part of the line in front of its column is
wide. -/
def caretOffset (measure : Text → Nat) (location : Location) (sourceLine : Text) : Nat :=
  measure (sourceLine.take (location.column - 1))

/-- The line of the source with an empty line above it and a caret below the key. -/
def sourceLines (measure : Text → Nat) (width : Nat) (severity : Severity) (location : Location)
    (sourceLine : Text) : List StyledLine :=
  [[plain (blanks width ++ [' ']), styled .blue ['|']],
    [styled .blue (padLeft width (Text.ofNat location.line)), plain [' '], styled .blue ['|'],
      plain (' ' :: sourceLine)],
    [plain (blanks width ++ [' ']), styled .blue ['|'],
      plain (' ' :: blanks (caretOffset measure location sourceLine)),
      styled (caretStyle severity) ['^']]]

def noteLine (width : Nat) (f : Finding) : StyledLine :=
  [plain (blanks width ++ [' ']), styled .blue ['='], plain [' '], styled .bold "note:".toList,
    plain (' ' :: f.details)]

def findingLines (measure : Text → Nat) (width : Nat) (f : Finding) : List StyledLine :=
  let source := match f.location, f.sourceLine with
    | some location, some line => sourceLines measure width f.severity location line
    | _, _ => []
  headLine f :: placeLine f :: source ++ [noteLine width f, []]

/-- The files that have been rewritten, if there are any. -/
def fixedLines (files : List Text) : List StyledLine :=
  if files.isEmpty then []
  else
    [styled .boldGreen "Removed".toList,
      plain (" zombie keys from ".toList ++ Text.ofNat files.length ++ " file(s):".toList)] ::
    files.map (fun path => [plain ("  - ".toList ++ path)]) ++ [[]]

/-- A number of things: one of them, or several. -/
def counted (n : Nat) (one : String) : Text :=
  if n = 1 then one.toList else one.toList ++ ['s']

/-- How many warnings there are and how many are allowed. -/
def budgetLine (outcome : Outcome) : StyledLine :=
  let budget := "warning budget: ".toList ++ Text.ofNat outcome.warningCount ++ " of ".toList ++
    Text.ofNat outcome.maxWarnings ++ " allowed".toList
  if outcome.hasTooManyWarnings then
    [plain "  ".toList, styled .yellow budget, plain [' '], styled .red "(exceeded)".toList]
  else [plain ("  ".toList ++ budget)]

/-- How many problems there are. -/
def countLine (outcome : Outcome) : StyledLine :=
  let errors := outcome.errorCount
  let warnings := outcome.warningCount
  [if outcome.passed then styled .green successMark else styled .red failureMark,
    plain (' ' :: Text.ofNat (errors + warnings) ++ " problems (".toList ++
      Text.ofNat errors ++ [' ']),
    styled .red (counted errors "error"),
    plain (", ".toList ++ Text.ofNat warnings ++ [' ']),
    styled .yellow (counted warnings "warning"), plain [')']]

def summaryLines (outcome : Outcome) : List StyledLine :=
  if outcome.errorCount + outcome.warningCount = 0 then
    [[styled .green successMark, plain [' '],
      styled .green "No translation key problems found".toList]]
  else countLine outcome :: if 0 < outcome.warningCount then [budgetLine outcome] else []

def lines (measure : Text → Nat) (outcome : Outcome) : List StyledLine :=
  let width := gutterWidth outcome.findings
  outcome.findings.flatMap (findingLines measure width) ++ fixedLines outcome.fixedFiles ++
    summaryLines outcome

/-- A report as text, with the carets placed by a measure. -/
def textWith (measure : Text → Nat) (colored : Bool) (outcome : Outcome) : Text :=
  StyledLine.renderAll colored (lines measure outcome)

/-- A report as text, with the carets placed by the columns that a terminal needs. -/
def text (colored : Bool) (outcome : Outcome) : Text := textWith Text.displayWidth colored outcome

end LocaleLint.Report
