import LocaleLint.Json.Basic

/-!
# Removal of keys

A key is removed from a document both as a member of that name and along its parts. What a removal
leaves empty is removed too, up to the top; an item of an array that is not the last one is replaced
by an empty object, so that the items behind it keep their indices. Main function:
`Removal.removeKeys`.
-/

namespace LocaleLint.Removal

/-- The parts of a key. -/
def partsOf (key : Text) : List Text := Text.splitOn '.' key

/-- The order of parts: words before indices, indices by their numbers, and then by the text. -/
def partLe (a b : Text) : Bool :=
  match Text.toIndex? a, Text.toIndex? b with
  | none, none => Text.le a b
  | none, some _ => true
  | some _, none => false
  | some m, some n => m < n || (m == n && Text.le a b)

/-- The order of lists of parts, part by part; a list is before its continuations. -/
def partsLe : List Text → List Text → Bool
  | [], _ => true
  | _ :: _, [] => false
  | a :: s, b :: t => if a = b then partsLe s t else partLe a b

/-- The parts of keys in the order of their removal: the greatest indices first, so that no removal
moves what another one is to remove. -/
def removalOrder (keys : List Text) : List (List Text) :=
  (keys.map partsOf).mergeSort fun a b => partsLe b a

/-- Takes an item out of an array: the last one is dropped, another one becomes an empty object. -/
def dropItem (items : List Json) (index : Nat) : List Json :=
  if index + 1 = items.length then items.dropLast else items.set index (.object [])

/-- Puts a new value in the place of a member, or takes the member out if the value is empty. -/
def putMember (members : Json.Members) (name : Text) (value : Json) : Json.Members :=
  if value.isEmptyContainer then members.erase name else members.insert name value

/-- Puts a new value in the place of an item, or takes the item out if the value is empty. -/
def putItem (items : List Json) (index : Nat) (value : Json) : List Json :=
  if value.isEmptyContainer then dropItem items index else items.set index value

/-- A value without what its parts lead to, unless they lead nowhere. -/
def removeAt? : List Text → Json → Option Json
  | [], _ => none
  | name :: rest, .object members =>
    (Json.Members.get? name members).bind fun child =>
      if rest.isEmpty then some (.object (Json.Members.erase name members))
      else (removeAt? rest child).map fun child => .object (putMember members name child)
  | part :: rest, .array items =>
    (Text.toIndex? part).bind fun index =>
      (items[index]?).bind fun item =>
        if rest.isEmpty then some (.array (dropItem items index))
        else (removeAt? rest item).map fun item => .array (putItem items index item)
  | _ :: _, _ => none

/-- A value without what its parts lead to, if they lead to anything. -/
def removeAt (parts : List Text) (value : Json) : Json := (removeAt? parts value).getD value

/-- A value without the members that are named like the keys. -/
def removeNames (keys : List Text) : Json → Json
  | .object members =>
    .object (keys.foldl (fun members key => Json.Members.erase key members) members)
  | value => value

/-- A document without keys. -/
def removeKeys (keys : List Text) (value : Json) : Json :=
  (removalOrder keys).foldl (fun value parts => removeAt parts value) (removeNames keys value)

end LocaleLint.Removal
