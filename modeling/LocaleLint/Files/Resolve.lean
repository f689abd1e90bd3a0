import LocaleLint.Document
import LocaleLint.Files.Ignore

/-!
# Resolving paths and patterns

A path or a pattern stands for files: a file stands for itself, a directory for the files below it
that have one of the wanted extensions, and a wildcard pattern for all that its matches stand for.
Main function: `Disk.resolve`.
-/

namespace LocaleLint

/-- A file tree and the working directory in it. -/
structure Disk where
  tree : FileTree
  directory : Address
deriving Repr

/-- A file or a directory that has been found: the path on which it was reached, and its address. -/
structure Found where
  path : Path
  address : Address
deriving Repr, DecidableEq

namespace Found

/-- What is reached from here by names that lead further down. -/
def down (here : Found) (names : List Text) : Found :=
  ⟨(if here.path = [.here] then [] else here.path) ++ names.map .name, here.address ++ names⟩

/-- What is reached through the parent directory. -/
def up (here : Found) : Found :=
  ⟨(if here.path = [.here] then [] else here.path) ++ [.up], here.address.dropLast⟩

end Found

namespace Disk

def isDirectory (disk : Disk) (here : Found) : Bool := disk.tree.isDirectory here.address

/-- One step from what has been found, along a part of a pattern without wildcards. -/
def stepTo? (disk : Disk) (here : Found) (part : Text) : Option Found :=
  if !disk.isDirectory here then none
  else if part = ['.'] then some here
  else if part = ['.', '.'] then some here.up
  else if part = [] then if here.path = [.here] then none else some here
  else
    let next := here.down [part]
    if (disk.tree.entry? next.address).isSome then some next else none

/-- One step from what has been found, to all entries of a directory that a part of a pattern
matches. The directory itself and its parent are matched only by a part that starts with a dot. -/
def stepsTo (disk : Disk) (here : Found) (part : Glob) : List Found :=
  if !disk.isDirectory here then []
  else
    let named := (disk.tree.children here.address).filter fun (name, _) => part.covers name
    let dots := part.tokens.head? = some (.literal '.')
    named.map (fun (name, _) => here.down [name]) ++
      (if dots && part.covers ['.'] then [here] else []) ++
      (if dots && part.covers ['.', '.'] then [here.up] else [])

def below (disk : Disk) (here : Found) : List Found :=
  if !disk.isDirectory here then []
  else (disk.tree.below here.address).map fun (names, _) => here.down names

/-- Whether a part of a pattern matches the last name of what has been found. -/
def isNamed (part : Glob) (found : Found) : Bool := found.address.getLast?.any part.covers

/-- All that a pattern matches from what has been found on, part by part. Two stars go to everything
below a directory; behind them the next part is matched with the names there, and at the end of the
pattern they stand for the directories. -/
def matchesFrom (disk : Disk) : List Glob → Found → List Found
  | [], here => [here]
  | part :: parts, here =>
    if part.isAnyParts then
      match parts with
      | [] => (disk.below here).filter disk.isDirectory
      | next :: rest =>
        if next.isAnyParts then matchesFrom disk (next :: rest) here
        else ((disk.below here).filter (isNamed next)).flatMap (matchesFrom disk rest)
    else match part.literal? with
      | some name => ((disk.stepTo? here name).map (matchesFrom disk parts)).getD []
      | none => (disk.stepsTo here part).flatMap (matchesFrom disk parts)

/-- Where a pattern starts to be matched, and the rest of it. -/
def startOf (disk : Disk) (pattern : Text) : Found × Text :=
  match pattern with
  | '/' :: rest => (⟨[.root], []⟩, rest.dropWhile (· = '/'))
  | _ => (⟨[.here], disk.directory⟩, pattern)

/-- The parts of a pattern between slashes, without an empty one at the end. -/
def partsOf (pattern : Text) : List Text :=
  let parts := Text.splitOn '/' pattern
  if parts.getLast? = some [] then parts.dropLast else parts

/-- All that a wildcard pattern matches. A slash at its end asks for directories. -/
def glob (disk : Disk) (pattern : Text) : Except GlobError (List Found) := do
  let _ ← Glob.ofText pattern
  let (start, rest) := disk.startOf pattern
  let parts ← (partsOf rest).mapM Glob.ofText
  let found := disk.matchesFrom parts start
  return if pattern.getLast? = some '/' then found.filter disk.isDirectory else found

def hasExtension (extensions : List Text) (path : Path) : Bool :=
  path.extension?.any extensions.contains

/-- The files that what has been found stands for. -/
def filesAt (disk : Disk) (extensions : List Text) (here : Found) : List Path :=
  match disk.tree.entry? here.address with
  | none => []
  | some .directory =>
    (disk.tree.below here.address).filterMap fun (names, entry) =>
      let path := (here.down names).path.normalize
      if entry ≠ .directory ∧ hasExtension extensions path then some path else none
  | some _ => [here.path.normalize]

/-- What a path or a pattern without brace alternatives leads to. A path that leads nowhere stands
for nothing. -/
def rootsOf (disk : Disk) (pattern : Text) : Except Failure (List Found) :=
  if Glob.isPattern pattern then
    (disk.glob pattern).mapError (.globInvalid pattern)
  else match disk.tree.locate disk.directory pattern with
    | .error _ => .ok []
    | .ok address =>
      .ok (if (disk.tree.entry? address).isSome then [⟨Path.ofText pattern, address⟩] else [])

/-- The files that a path or a pattern stands for and that are not ignored, each once, in the order
of their paths. -/
def resolve (disk : Disk) (pattern : Text) (ignores extensions : List Text) :
    Except Failure (List Path) := do
  let entries ← IgnoreEntry.ofTexts ignores
  let roots ← (Braces.expand pattern).mapM disk.rootsOf
  let files := roots.flatten.flatMap (disk.filesAt extensions)
  let kept := files.filter fun path => !entries.any (·.covers path)
  return kept.eraseDups.mergeSort Path.le

/-- The documents at paths, or the failure of the first file that cannot be read. -/
def readAll (disk : Disk) (paths : List Text) : Except Failure (List Document) :=
  paths.mapM fun path =>
    match disk.tree.read disk.directory path with
    | .ok content => .ok ⟨path, content⟩
    | .error fault => .error (.accessFailed path fault)

end Disk

end LocaleLint
