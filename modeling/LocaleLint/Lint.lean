import LocaleLint.Files.Resolve
import LocaleLint.Fix
import LocaleLint.Inventory
import LocaleLint.Settings.Layer

/-!
# Linting

A run over documents that have been read, and a run over the files of a disk. Settings are validated
first, and only a run that fixes changes the disk. Main functions: `Lint.lint` and `Lint.run`.
-/

namespace LocaleLint.Lint

/-- The documents of a run. -/
structure Inputs where
  languages : List Document
  views : List Document
deriving Repr, DecidableEq

/-- The forms of references that settings ask for. -/
def fragments (rules : RuleSettings) (catalog : Catalog) : List Fragment :=
  Fragment.compose catalog.keyNames rules.customPatterns rules.deepSearch.isOn

def scan (rules : RuleSettings) (inputs : Inputs) : Except Failure (Catalog × List View) := do
  let catalog ← Catalog.ofDocuments inputs.languages
  let pattern ← KeyPattern.ofFragments (fragments rules catalog)
  return (catalog, inputs.views.map (View.ofDocument pattern))

/-- The outcome of a run over documents. -/
def lint (rules : RuleSettings) (inputs : Inputs) : Except Failure Outcome := do
  rules.validate
  let ignored ← ignorePatterns rules.ignoredKeys
  let (catalog, views) ← scan rules inputs
  let findings := Check.runAll rules.checks catalog views
  return ⟨withoutIgnored ignored findings, rules.maxWarnings, []⟩

def viewExtensions : List Text := ["html".toList, "ts".toList]

def languageExtensions : List Text := ["json".toList]

/-- Makes sure that settings say where to look and that the rules make sense. -/
def validate (settings : Settings) : Except Failure Unit := do
  if Text.isBlank settings.project then throw (.pathMissing .project)
  if Text.isBlank settings.languages then throw (.pathMissing .languages)
  settings.rules.validate

/-- Reads the documents that settings ask for. -/
def load (settings : Settings) (disk : Disk) : Except Failure Inputs := do
  validate settings
  let languages ← disk.resolve settings.languages settings.ignore languageExtensions
  let views ← disk.resolve settings.project settings.ignore viewExtensions
  let languages ← disk.readAll (languages.map Path.toText)
  let views ← disk.readAll (views.map Path.toText)
  return ⟨languages, views⟩

/-- Writes documents one after another up to the first one that cannot be written: the paths that
have been written or the failure, and the file tree afterwards. -/
def writeAll (directory : Address) :
    List Document → FileTree → Except Failure (List Text) × FileTree
  | [], tree => (.ok [], tree)
  | document :: rest, tree =>
    match tree.write directory document.path document.content with
    | .error fault => (.error (.accessFailed document.path fault), tree)
    | .ok tree =>
      let (written, tree) := writeAll directory rest tree
      (written.map (document.path :: ·), tree)

/-- Lints what a disk holds, and plans what to write if settings ask for it. -/
def plan (settings : Settings) (disk : Disk) : Except Failure (Outcome × List Document) := do
  let inputs ← load settings disk
  let outcome ← lint settings.rules inputs
  if settings.fixZombies then return (outcome, ← Fix.plan outcome.findings inputs.languages)
  else return (outcome, [])

/-- The outcome of a run over a disk, and the file tree afterwards. -/
def run (settings : Settings) (disk : Disk) : Except Failure Outcome × FileTree :=
  match plan settings disk with
  | .error failure => (.error failure, disk.tree)
  | .ok (outcome, changed) =>
    let (written, tree) := writeAll disk.directory changed disk.tree
    (written.map fun files => { outcome with fixedFiles := files }, tree)

def survey (settings : Settings) (disk : Disk) : Except Failure (Catalog × List View) := do
  scan settings.rules (← load settings disk)

end LocaleLint.Lint
