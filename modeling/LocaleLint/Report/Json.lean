import LocaleLint.Finding.Outcome
import LocaleLint.Inventory
import LocaleLint.Json.Printer

/-!
# Reports as JSON

An outcome with the numbers of findings, and an inventory.
-/

namespace LocaleLint

def Json.outputText (value : Json) : Text := value.pretty 2 ++ ['\n']

namespace Report

/-- The number of findings of each rule. -/
def countsJson (outcome : Outcome) : Json :=
  .object (Rule.all.map fun rule => (rule.fieldName, .ofNat (outcome.count rule)))

/-- The numbers of findings, and whether the run has passed. -/
def summaryJson (outcome : Outcome) : Json :=
  .object [("errors".toList, .ofNat outcome.errorCount),
    ("warnings".toList, .ofNat outcome.warningCount),
    ("maxWarning".toList, .ofNat outcome.maxWarnings),
    ("hasError".toList, .bool outcome.hasError),
    ("isFullOfWarning".toList, .bool outcome.hasTooManyWarnings),
    ("passed".toList, .bool outcome.passed),
    ("counts".toList, countsJson outcome)]

def json (outcome : Outcome) : Json :=
  .object [("diagnostics".toList, .array (outcome.findings.map Finding.toJson)),
    ("fixedFiles".toList, .ofTexts outcome.fixedFiles),
    ("summary".toList, summaryJson outcome)]

end Report

def Declaration.toJson (declaration : Declaration) : Json :=
  .object [("filePath".toList, .string declaration.path),
    ("language".toList, .string declaration.language),
    ("value".toList, .string declaration.value),
    ("line".toList, .ofNat declaration.line)]

def Key.toJson (key : Key) : Json :=
  .object [("name".toList, .string key.name),
    ("declarations".toList, .array (key.declarations.map Declaration.toJson)),
    ("viewLocations".toList, .ofTexts key.views)]

namespace Inventory

def Language.toJson (language : Language) : Json :=
  .object [("name".toList, .string language.name), ("path".toList, .string language.path),
    ("keys".toList, .ofTexts language.keys)]

def json (catalog : Catalog) (views : List View) : Json :=
  .object [("languages".toList, .array ((languages catalog).map Language.toJson)),
    ("keys".toList, .array ((keys catalog views).map Key.toJson))]

end Inventory

end LocaleLint
