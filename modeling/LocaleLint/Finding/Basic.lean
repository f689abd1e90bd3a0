import LocaleLint.Json.Basic

/-!
# Findings

What a rule reports: a key, the file where it shows, and what helps to mend it.
-/

namespace LocaleLint

/-- How much a finding matters. -/
inductive Severity where
  | error
  | warning
deriving Repr, DecidableEq

def Severity.name : Severity → Text
  | error => "error".toList
  | warning => "warning".toList

/-- The rules. -/
inductive Rule where
  /-- A declared key that no view refers to. -/
  | zombie
  /-- A key that a view refers to and that some language file does not declare. -/
  | absent
  /-- A key found by one of the first two rules that is much like a declared key. -/
  | misprint
  /-- A key that is declared with a blank value. -/
  | empty
deriving Repr, DecidableEq

namespace Rule

/-- The rules in the order in which they run. -/
def all : List Rule := [zombie, absent, misprint, empty]

def displayName : Rule → Text
  | zombie => "zombie-key".toList
  | absent => "key-on-view".toList
  | misprint => "misprint-key".toList
  | empty => "empty-key".toList

/-- The name of a rule in JSON and in settings. -/
def fieldName : Rule → Text
  | zombie => "zombieKeys".toList
  | absent => "keysOnViews".toList
  | misprint => "misprintKeys".toList
  | empty => "emptyKeys".toList

end Rule

/-- A line and a column. -/
structure Location where
  line : Nat
  column : Nat
deriving Repr, DecidableEq

/-- What a rule reports. -/
structure Finding where
  key : Text
  rule : Rule
  severity : Severity
  sourceFile : Text
  relatedFiles : List Text
  suggestions : List Text
  location : Option Location
  sourceLine : Option Text
deriving Repr, DecidableEq

namespace Finding

/-- What a finding says about its key. -/
def details (finding : Finding) : Text :=
  match finding.rule with
  | .zombie => "not used in any view".toList
  | .absent =>
    if finding.relatedFiles.isEmpty then "no language file declares it".toList
    else "missing in: ".toList ++ Text.joinWith ", ".toList finding.relatedFiles
  | .misprint => "did you mean: ".toList ++ Text.joinWith ", ".toList finding.suggestions
  | .empty => "value is empty".toList

def locationJson (location : Location) : Json :=
  .object [("line".toList, .ofNat location.line), ("col".toList, .ofNat location.column)]

def toJson (finding : Finding) : Json :=
  .object <|
    [("key".toList, .string finding.key),
      ("rule".toList, .string finding.rule.fieldName),
      ("severity".toList, .string finding.severity.name),
      ("sourceFile".toList, .string finding.sourceFile),
      ("relatedFiles".toList, .ofTexts finding.relatedFiles),
      ("suggestions".toList, .ofTexts finding.suggestions)] ++
    (finding.location.map fun location => ("location".toList, locationJson location)).toList ++
    (finding.sourceLine.map fun line => ("sourceLine".toList, Json.string line)).toList

end Finding

end LocaleLint
