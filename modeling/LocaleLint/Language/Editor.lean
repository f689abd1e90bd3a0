import LocaleLint.Language.Catalog
import LocaleLint.Language.Removal
import LocaleLint.Json.Printer

/-!
# Editing language files

A language file that keys are removed from, and the text that it is then saved as.
-/

namespace LocaleLint

/-- A language file that is being edited: the text that it was read from, and its value by now. -/
structure Editor where
  source : Text
  value : Json

namespace Editor

/-- How many spaces a level of a saved file is indented. -/
def indentation : Nat := 4

def ofDocument (document : Document) : Except Failure Editor :=
  document.json.map (⟨document.content, ·⟩)

def removeKeys (editor : Editor) (keys : List Text) : Editor :=
  { editor with value := Removal.removeKeys keys editor.value }

/-- The text of a saved file. -/
def textOf (value : Json) : Text := value.pretty indentation ++ ['\n']

/-- The text that the file is saved as. -/
def content (editor : Editor) : Text := textOf editor.value

/-- Whether saving changes the file. -/
def isModified (editor : Editor) : Bool := editor.content ≠ editor.source

end Editor

end LocaleLint
