import LocaleLint.Files.Path

/-!
# File trees

A file tree is the set of its directories and files, each under its address: the names that lead to
it from the root. Paths start at the root or at a working directory.
-/

namespace LocaleLint

/-- The names that lead to a file or a directory from the root. -/
abbrev Address := List Text

def Path.ofAddress (address : Address) : Path := .root :: address.map .name

/-- A file or a directory. The content of a file is absent if it is not text. A locked file can be
read, but not written. -/
inductive FileEntry where
  | directory
  | file (content : Option Text)
  | locked (content : Option Text)
deriving Repr, DecidableEq

/-- Why a file cannot be read or written. -/
inductive FileFault where
  | notFound
  | notDirectory
  | isDirectory
  | notText
  | denied
deriving Repr, DecidableEq

def FileFault.message : FileFault → Text
  | notFound => "No such file or directory (os error 2)".toList
  | notDirectory => "Not a directory (os error 20)".toList
  | isDirectory => "Is a directory (os error 21)".toList
  | notText => "stream did not contain valid UTF-8".toList
  | denied => "Permission denied (os error 13)".toList

/-- The directories and files of a tree. The root is a directory that is not listed, and so every
tree has it. -/
structure FileTree where
  entries : List (Address × FileEntry)
deriving Repr

namespace FileTree

/-- What is at an address. -/
def entry? (tree : FileTree) : Address → Option FileEntry
  | [] => some .directory
  | address => tree.entries.lookup address

def isDirectory (tree : FileTree) (address : Address) : Bool :=
  tree.entry? address = some .directory

/-- The names that lead from an address to another one below it. -/
def below? : (address other : Address) → Option Address
  | [], [] => none
  | [], other => some other
  | _ :: _, [] => none
  | a :: address, b :: other => if a = b then below? address other else none

/-- What is below an address: for each entry the names that lead to it from there. -/
def below (tree : FileTree) (address : Address) : List (Address × FileEntry) :=
  tree.entries.filterMap fun (other, entry) => (below? address other).map (·, entry)

/-- What is in a directory: for each entry its name. -/
def children (tree : FileTree) (address : Address) : List (Text × FileEntry) :=
  (tree.below address).filterMap fun (names, entry) =>
    match names with
    | [name] => some (name, entry)
    | _ => none

/-- One step from a directory: along a part of a path. -/
def stepTo (tree : FileTree) (address : Address) (part : Text) : Except FileFault Address :=
  match tree.entry? address with
  | none => .error .notFound
  | some .directory =>
    if part = [] ∨ part = ['.'] then .ok address
    else if part = ['.', '.'] then .ok address.dropLast
    else .ok (address ++ [part])
  | some _ => .error .notDirectory

/-- The address that a path leads to from a working directory. All but the last step of it have to
lead to directories. -/
def locate (tree : FileTree) (directory : Address) (path : Text) : Except FileFault Address :=
  match path with
  | [] => .error .notFound
  | '/' :: rest => (Text.splitOn '/' rest).foldlM tree.stepTo []
  | path => (Text.splitOn '/' path).foldlM tree.stepTo directory

/-- What a path leads to. -/
def find? (tree : FileTree) (directory : Address) (path : Text) : Option FileEntry :=
  match tree.locate directory path with
  | .error _ => none
  | .ok address => tree.entry? address

/-- Whether a path leads anywhere. -/
def has (tree : FileTree) (directory : Address) (path : Text) : Bool :=
  (tree.find? directory path).isSome

def read (tree : FileTree) (directory : Address) (path : Text) : Except FileFault Text := do
  match tree.entry? (← tree.locate directory path) with
  | none => .error .notFound
  | some .directory => .error .isDirectory
  | some (.file none) | some (.locked none) => .error .notText
  | some (.file (some content)) | some (.locked (some content)) => .ok content

/-- Puts an entry at an address in a list of entries, in the place of another one there. -/
def setEntry (address : Address) (entry : FileEntry) :
    List (Address × FileEntry) → List (Address × FileEntry)
  | [] => [(address, entry)]
  | (other, old) :: rest =>
    if other = address then (address, entry) :: rest
    else (other, old) :: setEntry address entry rest

/-- Puts an entry at an address, in the place of another one there. -/
def set (tree : FileTree) (address : Address) (entry : FileEntry) : FileTree :=
  ⟨setEntry address entry tree.entries⟩

/-- Takes away what is at an address and below it. -/
def remove (tree : FileTree) (address : Address) : FileTree :=
  ⟨tree.entries.filter fun (other, _) => other ≠ address ∧ (below? address other).isNone⟩

/-- Makes the directories that an address names, where there is nothing yet. -/
def makeDirectories (tree : FileTree) (address : Address) : FileTree :=
  (List.range address.length).foldl (fun tree n =>
    let directory := address.take (n + 1)
    if (tree.entry? directory).isSome then tree else tree.set directory .directory) tree

/-- Writes a text to the file that a path leads to, unless it is locked. Its directory has to be
there. -/
def write (tree : FileTree) (directory : Address) (path content : Text) :
    Except FileFault FileTree := do
  let address ← tree.locate directory path
  match tree.entry? address with
  | some .directory => .error .isDirectory
  | some (.locked _) => .error .denied
  | _ => .ok (tree.set address (.file (some content)))

end FileTree

end LocaleLint
