import LocaleLint.Json.Basic

/-!
# Leaves

The keys and values that a JSON value declares. The key of a leaf is the names and indices on its
path with dots between them. A list of strings is one leaf.
-/

namespace LocaleLint

/-- A key and its value. -/
structure Leaf where
  key : Text
  value : Text
deriving Repr, DecidableEq

namespace Leaf

/-- The key of a member or an item below a key; at the top it is the name itself. -/
def join (above name : Text) : Text := if above.isEmpty then name else above ++ '.' :: name

/-- The value of a leaf that is not a list. -/
def valueOf : Json → Text
  | .string s => s
  | .bool true => "true".toList
  | .bool false => "false".toList
  | .number n => n.text
  | _ => []

/-- The leaf of a key, unless the key is empty. -/
def ofKey (key value : Text) : List Leaf := if key.isEmpty then [] else [⟨key, value⟩]

mutual

/-- The leaves of a value below a key, in the order of the text. -/
def below (above : Text) : Json → List Leaf
  | .object members => belowMembers above members
  | .array items =>
    if above.isEmpty || items.isEmpty then []
    else if items.all Json.isString then
      ofKey above (Text.joinWith ", ".toList (items.filterMap Json.string?))
    else belowItems above 0 items
  | scalar => ofKey above (valueOf scalar)

/-- The leaves of the members of an object below a key. -/
def belowMembers (above : Text) : List (Text × Json) → List Leaf
  | [] => []
  | (name, value) :: rest => below (join above name) value ++ belowMembers above rest

/-- The leaves of the items of an array below a key, from an index on. -/
def belowItems (above : Text) (index : Nat) : List Json → List Leaf
  | [] => []
  | item :: rest => below (join above (Text.ofNat index)) item ++ belowItems above (index + 1) rest

end

def all (value : Json) : List Leaf := below [] value

end Leaf

end LocaleLint
