import LocaleLint.CommandLine.Basic
import LocaleLint.CommandLine.Flag
import LocaleLint.CommandLine.Reader
import LocaleLint.CommandLine.Run
import LocaleLint.CommandLine.Survey
import LocaleLint.Document
import LocaleLint.EditDistance
import LocaleLint.Failure
import LocaleLint.Files.Braces
import LocaleLint.Files.Glob
import LocaleLint.Files.Ignore
import LocaleLint.Files.Path
import LocaleLint.Files.Resolve
import LocaleLint.Files.Tree
import LocaleLint.Finding.Basic
import LocaleLint.Finding.Check
import LocaleLint.Finding.Outcome
import LocaleLint.Fix
import LocaleLint.Inventory
import LocaleLint.Json.Basic
import LocaleLint.Json.Fault
import LocaleLint.Json.Mismatch
import LocaleLint.Json.Printer
import LocaleLint.Json.Reader
import LocaleLint.Json.Scanner
import LocaleLint.Json.Typed
import LocaleLint.Language.Catalog
import LocaleLint.Language.Editor
import LocaleLint.Language.File
import LocaleLint.Language.Leaf
import LocaleLint.Language.NameLine
import LocaleLint.Language.Removal
import LocaleLint.Lint
import LocaleLint.Main
import LocaleLint.Number.Decimal
import LocaleLint.Number.Double
import LocaleLint.Number.Numeral
import LocaleLint.Pattern.Ast
import LocaleLint.Pattern.Brackets
import LocaleLint.Pattern.Escape
import LocaleLint.Pattern.Fault
import LocaleLint.Pattern.Meaning
import LocaleLint.Pattern.Program
import LocaleLint.Pattern.Properties
import LocaleLint.Pattern.Reader
import LocaleLint.Pattern.Regex
import LocaleLint.Pattern.Search
import LocaleLint.Proofs.EditDistance.Edits
import LocaleLint.Proofs.EditDistance.Similarity
import LocaleLint.Proofs.Except
import LocaleLint.Proofs.Failures
import LocaleLint.Proofs.Files.Addresses
import LocaleLint.Proofs.Files.Braces
import LocaleLint.Proofs.Files.Ignoring
import LocaleLint.Proofs.Files.Resolve
import LocaleLint.Proofs.Files.Writing
import LocaleLint.Proofs.Finding.Blank
import LocaleLint.Proofs.Finding.Check
import LocaleLint.Proofs.Finding.Coefficient
import LocaleLint.Proofs.Finding.Milder
import LocaleLint.Proofs.Finding.Ranking
import LocaleLint.Proofs.Fix.Entries
import LocaleLint.Proofs.Fix.Plan
import LocaleLint.Proofs.Fix.Repetition
import LocaleLint.Proofs.Fix.Rounds
import LocaleLint.Proofs.Independence
import LocaleLint.Proofs.Inventory
import LocaleLint.Proofs.Json.Number
import LocaleLint.Proofs.Json.Path
import LocaleLint.Proofs.Json.RoundTrip
import LocaleLint.Proofs.Json.Sound
import LocaleLint.Proofs.Json.Source
import LocaleLint.Proofs.Language.Catalog
import LocaleLint.Proofs.Language.Editing
import LocaleLint.Proofs.Language.Exactness
import LocaleLint.Proofs.Language.Flattening
import LocaleLint.Proofs.Language.Idempotence
import LocaleLint.Proofs.Language.KeyLines
import LocaleLint.Proofs.Language.Members
import LocaleLint.Proofs.Language.NameSearch
import LocaleLint.Proofs.Language.NameUse
import LocaleLint.Proofs.Language.Order
import LocaleLint.Proofs.Language.Plain
import LocaleLint.Proofs.Language.Pruning
import LocaleLint.Proofs.Language.Removal
import LocaleLint.Proofs.Language.Steps
import LocaleLint.Proofs.Language.Table
import LocaleLint.Proofs.Language.Weight
import LocaleLint.Proofs.Lint
import LocaleLint.Proofs.Loosening
import LocaleLint.Proofs.Number.Accuracy
import LocaleLint.Proofs.Number.Decimal
import LocaleLint.Proofs.Number.Rounding
import LocaleLint.Proofs.Pattern.Brackets
import LocaleLint.Proofs.Pattern.Capture
import LocaleLint.Proofs.Pattern.Choice
import LocaleLint.Proofs.Pattern.Groups
import LocaleLint.Proofs.Pattern.Language
import LocaleLint.Proofs.Pattern.Literal
import LocaleLint.Proofs.Pattern.Locality
import LocaleLint.Proofs.Pattern.Machine
import LocaleLint.Proofs.Pattern.Marks
import LocaleLint.Proofs.Pattern.Naming
import LocaleLint.Proofs.Pattern.Nesting
import LocaleLint.Proofs.Pattern.Numbering
import LocaleLint.Proofs.Pattern.Preference
import LocaleLint.Proofs.Pattern.Relocation
import LocaleLint.Proofs.Pattern.Scan
import LocaleLint.Proofs.Pattern.Verbosity
import LocaleLint.Proofs.Pattern.Words
import LocaleLint.Proofs.Reconciliation
import LocaleLint.Proofs.Reference.Builtin
import LocaleLint.Proofs.Reference.Combination
import LocaleLint.Proofs.Reference.Declared
import LocaleLint.Proofs.Reference.DeepSearch
import LocaleLint.Proofs.Reference.KeyRuns
import LocaleLint.Proofs.Reference.Letters
import LocaleLint.Proofs.Reference.Occurrences
import LocaleLint.Proofs.Reference.OneByOne
import LocaleLint.Proofs.Reference.Recall
import LocaleLint.Proofs.Reference.Validity
import LocaleLint.Proofs.Report.Style
import LocaleLint.Proofs.Report.Text
import LocaleLint.Proofs.Run
import LocaleLint.Proofs.Settings.Format
import LocaleLint.Proofs.Settings.Ignoring
import LocaleLint.Proofs.Settings.Members
import LocaleLint.Proofs.Settings.Nearest
import LocaleLint.Proofs.Settings.RoundTrip
import LocaleLint.Proofs.Sorting
import LocaleLint.Proofs.Text.Lines
import LocaleLint.Proofs.Text.Lists
import LocaleLint.Proofs.Text.Numeral
import LocaleLint.Proofs.Text.Order
import LocaleLint.Proofs.Text.Splitting
import LocaleLint.Reference.Extraction
import LocaleLint.Reference.Fragment
import LocaleLint.Reference.View
import LocaleLint.Report.Json
import LocaleLint.Report.Style
import LocaleLint.Report.Text
import LocaleLint.Settings.Format
import LocaleLint.Settings.Layer
import LocaleLint.Settings.Rules
import LocaleLint.Settings.Search
import LocaleLint.Text.Basic
import LocaleLint.Text.Lines
import LocaleLint.Text.Visible
import LocaleLint.Text.Width
import LocaleLint.Unicode.Age
import LocaleLint.Unicode.Break
import LocaleLint.Unicode.CaseFolding
import LocaleLint.Unicode.CharClass
import LocaleLint.Unicode.GeneralCategory
import LocaleLint.Unicode.Property
import LocaleLint.Unicode.Script
import LocaleLint.Unicode.ScriptExtension
import LocaleLint.Unicode.Width
