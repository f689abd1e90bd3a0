import LocaleLint.Failure
import LocaleLint.Finding.Basic
import LocaleLint.Pattern.Search

/-!
# Outcomes

The findings of a run that are not ignored, and whether the run has passed: there is no error, and
there are no more warnings than allowed.
-/

namespace LocaleLint

/-- Compiles the patterns of keys to ignore; they do not tell capital letters from small ones. -/
def ignorePatterns (patterns : List Text) : Except Failure (List Pattern) :=
  patterns.mapM fun text =>
    (Pattern.compile { caseInsensitive := true } text).mapError fun fault =>
      .patternInvalid ⟨text, fault⟩

def isIgnored (patterns : List Pattern) (key : Text) : Bool := patterns.any (·.occursIn key)

/-- The findings whose keys are not ignored. -/
def withoutIgnored (patterns : List Pattern) (findings : List Finding) : List Finding :=
  findings.filter fun f => !isIgnored patterns f.key

/-- The outcome of a run: the findings, how many warnings are allowed, and the files that have been
changed. -/
structure Outcome where
  findings : List Finding
  maxWarnings : Nat
  fixedFiles : List Text
deriving Repr, DecidableEq

namespace Outcome

/-- How many findings a rule has made. -/
def count (outcome : Outcome) (rule : Rule) : Nat := outcome.findings.countP (·.rule = rule)

/-- Whether a rule has made a finding. -/
def has (outcome : Outcome) (rule : Rule) : Bool := outcome.findings.any (·.rule = rule)

def ofRule (outcome : Outcome) (rule : Rule) : List Finding :=
  outcome.findings.filter (·.rule = rule)

def errorCount (outcome : Outcome) : Nat := outcome.findings.countP (·.severity = .error)

def warningCount (outcome : Outcome) : Nat := outcome.findings.countP (·.severity = .warning)

def hasError (outcome : Outcome) : Bool := 0 < outcome.errorCount

/-- Whether there are more warnings than allowed. -/
def hasTooManyWarnings (outcome : Outcome) : Bool := outcome.maxWarnings < outcome.warningCount

def passed (outcome : Outcome) : Bool := !outcome.hasError && !outcome.hasTooManyWarnings

def toJson (outcome : Outcome) : Json :=
  .object [("diagnostics".toList, .array (outcome.findings.map Finding.toJson)),
    ("maxWarning".toList, .ofNat outcome.maxWarnings),
    ("fixedFiles".toList, .ofTexts outcome.fixedFiles)]

end Outcome

end LocaleLint
