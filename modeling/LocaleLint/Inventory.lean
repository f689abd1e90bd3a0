import LocaleLint.Language.Catalog
import LocaleLint.Reference.View

/-!
# Inventory

What the language files declare, and where the views refer to it.
-/

namespace LocaleLint.Inventory

/-- The name and the path of a language file, and its keys. -/
structure Language where
  name : Text
  path : Text
  keys : List Text
deriving Repr, DecidableEq

def languages (catalog : Catalog) : List Language :=
  catalog.files.map fun file => ⟨file.name, file.path, file.keys⟩

def viewsOf (views : List View) (key : Text) : List Text :=
  (views.filter (·.refersTo key)).map (·.path)

/-- The declared keys with the views that refer to them. -/
def keys (catalog : Catalog) (views : List View) : List Key :=
  catalog.keys.map fun key => { key with views := viewsOf views key.name }

end LocaleLint.Inventory
