import LocaleLint.Finding.Basic
import LocaleLint.Language.Editor

/-!
# Fixes

The new contents of the language files when the keys that no view refers to are removed. A file is
written at most once, and only if its text changes.
-/

namespace LocaleLint.Fix

/-- Puts a key with the others of its file, or with a new file at the end. -/
def addKey (path key : Text) : List (Text × List Text) → List (Text × List Text)
  | [] => [(path, [key])]
  | (p, keys) :: rest =>
    if p = path then (p, keys ++ [key]) :: rest else (p, keys) :: addKey path key rest

/-- The keys to remove, by file; files and keys are in the order of the findings. -/
def keysByFile (findings : List Finding) : List (Text × List Text) :=
  (findings.filter (·.rule = .zombie)).foldl (fun groups f => addKey f.sourceFile f.key groups) []

/-- The new content of a document without keys, if it changes. -/
def cleaned? (document : Document) (keys : List Text) : Except Failure (Option Document) := do
  let editor := (← Editor.ofDocument document).removeKeys keys
  return if editor.isModified then some ⟨document.path, editor.content⟩ else none

/-- The new contents of the documents that the findings are about. Findings about other files are
left out. -/
def plan (findings : List Finding) (documents : List Document) :
    Except Failure (List Document) := do
  let cleaned ← (keysByFile findings).mapM fun (path, keys) =>
    match documents.find? (·.path = path) with
    | none => pure none
    | some document => cleaned? document keys
  return cleaned.filterMap id

end LocaleLint.Fix
