import LocaleLint.CommandLine.Survey

/-!
# The program

Reads the command line and the part of the file system that the command needs, runs the command, and
carries out what it asks for.
-/

namespace LocaleLint.Program

/-- The path of an address, for the file system. -/
def pathOf (address : Address) : String := String.ofList (Path.ofAddress address).toText

def contentOf (address : Address) : IO (Option Text) := do
  let bytes ← IO.FS.readBinFile (pathOf address)
  return (String.fromUTF8? bytes).map String.toList

/-- Whether a file can be opened for writing. -/
def isWritable (address : Address) : IO Bool := do
  try
    let _ ← IO.FS.Handle.mk (pathOf address) .readWrite
    return true
  catch _ => return false

/-- Adds what is at an address to a tree, and with `deep` also what is below it. What cannot be read
is left out. -/
partial def add (deep : Bool) (tree : FileTree) (address : Address) : IO FileTree := do
  let path := System.mkFilePath [pathOf address]
  try
    if ← path.isDir then
      let mut tree := tree.makeDirectories address
      if deep then
        for entry in ← path.readDir do
          tree ← add deep tree (address ++ [entry.fileName.toList])
      return tree
    else if ← path.pathExists then
      let content ← contentOf address
      let entry := if ← isWritable address then FileEntry.file content else .locked content
      return (tree.makeDirectories address.dropLast).set address entry
    else return tree
  catch _ => return tree

/-- The part of the file system that a command needs. -/
def diskFor (directory : Address) (command : Command) : IO Disk := do
  let options := Survey.optionsOf command
  let mut tree : FileTree := (⟨[]⟩ : FileTree).makeDirectories directory
  for address in Survey.settingsAddresses directory options do
    tree ← add false tree address
  match Command.settings options ⟨tree, directory⟩ with
  | .error _ => return ⟨tree, directory⟩
  | .ok settings =>
    for address in Survey.roots directory settings do
      tree ← add true tree address
    return ⟨tree, directory⟩

/-- Writes the files that a command has changed. -/
def saveChanges (before after : FileTree) : IO Unit := do
  for (address, entry) in after.entries do
    match entry with
    | .file (some content) =>
      if before.entry? address ≠ some entry then
        IO.FS.writeFile (pathOf address) (String.ofList content)
    | _ => pure ()

/-- What is said of a refused command line. -/
def refusalText : Refusal → String
  | .unknownArgument => "error: unexpected argument"
  | .unknownCommand => "error: unrecognized subcommand"
  | .valueNotAllowed => "error: a value is missing or is not one of the possible values"
  | .valueInvalid => "error: invalid value"
  | .valueSuperfluous => "error: unexpected value for an option without one"
  | .optionRepeated => "error: an option cannot be used multiple times"
  | .helpAsked => String.ofList Command.overviewText
  | .versionAsked => "keylint 0.1.0\n"

/-- Carries out a command. -/
def perform (command : Command) : IO UInt32 := do
  let stdout ← IO.getStdout
  let colored := (← stdout.isTty) && (← IO.getEnv "NO_COLOR").isNone
  let directory := Survey.addressOf [] (← IO.currentDir).toString.toList
  let disk ← diskFor directory command
  let result := command.run colored disk
  saveChanges disk.tree result.tree
  stdout.putStr (String.ofList result.output)
  IO.eprint (String.ofList result.errorOutput)
  match result.error with
  | none => pure ()
  | some error => IO.eprintln ("Error: " ++ String.ofList error.message)
  return result.exitCode.toUInt32

end LocaleLint.Program

/-- Runs the command that the arguments ask for. -/
def main (arguments : List String) : IO UInt32 := do
  match LocaleLint.Command.ofArguments (arguments.map String.toList) with
  | .ok command => LocaleLint.Program.perform command
  | .error refusal =>
    let text := LocaleLint.Program.refusalText refusal
    if refusal.exitCode = 0 then IO.print text else IO.eprintln text
    return refusal.exitCode.toUInt32
