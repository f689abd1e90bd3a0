import LocaleLint.Files.Path

/-!
# Documents

A file that has been read: the path on which it was reached, and its text.
-/

namespace LocaleLint

/-- A path and the text of the file that it leads to. -/
structure Document where
  path : Text
  content : Text
deriving Repr, DecidableEq

/-- The name of a document: its file name without the extension, or else its path. -/
def Document.stem (document : Document) : Text :=
  (Path.ofText document.path).stem?.getD document.path

end LocaleLint
