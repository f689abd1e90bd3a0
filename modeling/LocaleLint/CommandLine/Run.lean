import LocaleLint.CommandLine.Reader
import LocaleLint.Lint
import LocaleLint.Report.Json
import LocaleLint.Report.Text
import LocaleLint.Settings.Search

/-!
# Running commands

What a command prints, how it ends, and the file tree that it leaves, for a disk that it starts
with. Main function: `Command.run`.
-/

namespace LocaleLint

/-- Why a command does not complete. -/
inductive CommandError where
  | failure (failure : Failure)
  | settings (error : SettingsError)
  | notWritten (path : Text) (fault : FileFault)
deriving Repr, DecidableEq

namespace CommandError

/-- The wording of an error with all its causes. A failure names its cause itself, and the cause of
a failure outside the settings is named once more. -/
def message : CommandError → Text
  | settings error => error.message
  | notWritten path fault => "Failed to write ".toList ++ path ++ ": ".toList ++ fault.message
  | failure (.patternInvalid error) => (Failure.patternInvalid error).message
  | failure f =>
    match f.reason? with
    | none => f.message
    | some reason => f.message ++ ": ".toList ++ reason

end CommandError

/-- What a command does: how it ends, what it prints, and the file tree that it leaves. -/
structure CommandResult where
  exitCode : Nat
  output : Text
  errorOutput : Text
  error : Option CommandError
  tree : FileTree

namespace Command

def overviewText : Text :=
  ("A fast CLI tool for finding unused, missing, empty and misspelled translation keys\n\n" ++
    "Usage: keylint [COMMAND]\n\n" ++
    "Commands:\n" ++
    "  check  Check translation keys (zombie, absent, misprint and empty keys)\n" ++
    "  keys   Print language files and keys as JSON\n" ++
    "  init   Initialize a new .keylintrc.json configuration file\n" ++
    "  help   Print this message or the help of the given subcommand(s)\n\n" ++
    "Options:\n" ++
    "  -h, --help     Print help\n" ++
    "  -V, --version  Print version\n").toList

/-- A command that completes and leaves a file tree. -/
def completed (exitCode : Nat) (output : Text) (tree : FileTree) : CommandResult :=
  ⟨exitCode, output, [], none, tree⟩

def stopped (error : CommandError) (tree : FileTree) : CommandResult :=
  ⟨2, [], [], some error, tree⟩

def settings (options : Options) (disk : Disk) : Except SettingsError Settings :=
  (SettingsFile.load disk options.settingsFile).map (Settings.merge · options.layer)

def runCheck (colored : Bool) (options : Options) (disk : Disk) : CommandResult :=
  match settings options disk with
  | .error error => stopped (.settings error) disk.tree
  | .ok settings =>
    match Lint.run settings disk with
    | (.error failure, tree) => stopped (.failure failure) tree
    | (.ok outcome, tree) =>
      let output := match options.format with
        | .text => Report.text colored outcome
        | .json => (Report.json outcome).outputText
      completed (if outcome.passed then 0 else 1) output tree

/-- Lists the languages and the keys. -/
def runKeys (options : Options) (disk : Disk) : CommandResult :=
  match settings options disk with
  | .error error => stopped (.settings error) disk.tree
  | .ok settings =>
    match Lint.survey settings disk with
    | .error failure => stopped (.failure failure) disk.tree
    | .ok (catalog, views) =>
      completed 0 (Inventory.json catalog views).outputText disk.tree

/-- Writes a settings file, unless there is one. -/
def runInit (colored : Bool) (disk : Disk) : CommandResult :=
  let name := SettingsFile.name
  if disk.tree.has disk.directory name then
    ⟨1, [], "Error: ".toList ++ name ++ " already exists\n".toList, none, disk.tree⟩
  else match disk.tree.write disk.directory name (SettingsFile.defaultText ++ ['\n']) with
    | .error fault => stopped (.notWritten name fault) disk.tree
    | .ok tree =>
      let line : StyledLine := [.styled .green Report.successMark, .plain [' '],
        .styled .green ("Created ".toList ++ name)]
      completed 0 (line.render colored) tree

/-- Carries out a command. -/
def run (colored : Bool) (command : Command) (disk : Disk) : CommandResult :=
  match command with
  | overview => completed 0 overviewText disk.tree
  | check options => runCheck colored options disk
  | keys options => runKeys options disk
  | init => runInit colored disk

end Command

end LocaleLint
