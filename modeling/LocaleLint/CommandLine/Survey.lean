import LocaleLint.CommandLine.Run

/-!
# What a command needs to see

The parts of a disk on which the outcome of a command depends: the settings file, and what lies
below the paths and patterns of the settings.
-/

namespace LocaleLint.Survey

/-- The address that a path names when every part of it is followed by its name alone. -/
def addressOf (directory : Address) (path : Text) : Address :=
  let start := if path.head? = some '/' then [] else directory
  (Text.splitOn '/' path).foldl (fun address part =>
    if part = [] ∨ part = ['.'] then address
    else if part = ['.', '.'] then address.dropLast
    else address ++ [part]) start

/-- The parts of a pattern in front of the first one with a wildcard. A part that starts with a dot
may also lead to the directory above. -/
def fixedParts : List Text → List Text
  | [] => []
  | part :: rest =>
    if part.any (fun c => c = '*' ∨ c = '?' ∨ c = '[') then
      if part.head? = some '.' then [['.', '.']] else []
    else part :: fixedParts rest

/-- The path in front of the wildcards of a pattern. -/
def fixedPath (pattern : Text) : Text :=
  if Glob.isPattern pattern then
    Text.joinWith ['/'] (fixedParts (Text.splitOn '/' pattern))
  else pattern

/-- The addresses below which settings look for files. -/
def roots (directory : Address) (settings : Settings) : List Address :=
  ([settings.project, settings.languages].flatMap Braces.expand).map fun pattern =>
    addressOf directory (if pattern.head? = some '/' then '/' :: fixedPath pattern else
      fixedPath pattern)

/-- The addresses at which settings files and the mark of a repository are looked for. -/
def marks (directory : Address) : List Address :=
  (List.range (directory.length + 1)).flatMap fun n =>
    [directory.take n ++ [SettingsFile.name], directory.take n ++ [SettingsFile.repositoryMark]]

/-- The addresses that are needed to know the settings. -/
def settingsAddresses (directory : Address) (options : Options) : List Address :=
  match options.settingsFile with
  | none => marks directory
  | some path => addressOf directory path :: marks directory

def optionsOf : Command → Options
  | .check options => options
  | .keys options => options
  | _ => {}

end LocaleLint.Survey
