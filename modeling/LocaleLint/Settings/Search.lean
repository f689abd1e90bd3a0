import LocaleLint.Files.Resolve
import LocaleLint.Settings.Format

/-!
# The settings file

Where settings are looked for: in the nearest directory upward that holds a settings file, up to the
root of the repository.
-/

namespace LocaleLint

/-- Why a settings file does not give a layer. -/
inductive SettingsError where
  | unreadable (path : Text) (fault : FileFault)
  | malformed (path : Text) (error : Json.Error)
deriving Repr, DecidableEq

/-- The wording of an error about a settings file. -/
def SettingsError.message : SettingsError → Text
  | unreadable path fault =>
    "Failed to read config file: ".toList ++ path ++ ": ".toList ++ fault.message
  | malformed path error =>
    "Failed to parse config file: ".toList ++ path ++ ": ".toList ++ error.message

namespace SettingsFile

/-- The name of settings files. -/
def name : Text := ".keylintrc.json".toList

/-- The name by which the root of a repository is known. -/
def repositoryMark : Text := ".git".toList

/-- Whether the directory that a path leads to holds something of a name. -/
def holds (disk : Disk) (directory : Path) (name : Text) : Bool :=
  disk.tree.has disk.directory (directory.join name).toText

/-- The path of the nearest settings file upward from a directory. The root of a repository is the
last directory that is looked into. -/
def search (disk : Disk) (directory : Path) : Option Path :=
  if holds disk directory name then some (directory.join name)
  else if holds disk directory repositoryMark then none
  else match _above : directory.parent? with
    | none => none
    | some parent => search disk parent
termination_by directory.length
decreasing_by exact Path.length_lt_of_parent? _above

def read (disk : Disk) (path : Text) : Except SettingsError Layer := do
  let content ← (disk.tree.read disk.directory path).mapError (.unreadable path)
  (Layer.ofText content).mapError (.malformed path)

/-- The layer of the settings file that is asked for, or of the nearest one. Without any, nothing
is set. -/
def load (disk : Disk) (asked : Option Text) : Except SettingsError Layer :=
  match asked.or ((search disk (Path.ofAddress disk.directory)).map Path.toText) with
  | none => .ok {}
  | some path => read disk path

/-- The text of a settings file that sets everything to the defaults. -/
def defaultText : Text := Settings.default.toLayer.toJson.pretty 2

end SettingsFile

end LocaleLint
