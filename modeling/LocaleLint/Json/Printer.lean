import LocaleLint.Json.Basic

/-!
# Printing JSON

The text of a value, either compact or with one member or item a line. In strings only quotes,
backslashes and control characters are escaped.
-/

namespace LocaleLint.Json

/-- A character as it is written in a string. -/
def escapeChar (c : Char) : Text :=
  if c = '"' then ['\\', '"']
  else if c = '\\' then ['\\', '\\']
  else if c = '\x08' then ['\\', 'b']
  else if c = '\x0c' then ['\\', 'f']
  else if c = '\n' then ['\\', 'n']
  else if c = '\r' then ['\\', 'r']
  else if c = '\t' then ['\\', 't']
  else if c.toNat < 0x20 then
    "\\u00".toList ++ [Text.hexDigit (c.toNat / 16), Text.hexDigit (c.toNat % 16)]
  else [c]

def quote (s : Text) : Text := '"' :: s.flatMap escapeChar ++ ['"']

/-- The text of a value that holds no other values. -/
def scalarText : Json → Text
  | null => "null".toList
  | bool true => "true".toList
  | bool false => "false".toList
  | number n => n.text
  | string s => quote s
  | array _ => []
  | object _ => []

mutual

def compact : Json → Text
  | array items => '[' :: Text.joinWith [','] (compactItems items) ++ [']']
  | object members => '\x7b' :: Text.joinWith [','] (compactMembers members) ++ ['\x7d']
  | scalar => scalarText scalar

def compactItems : List Json → List Text
  | [] => []
  | item :: rest => compact item :: compactItems rest

def compactMembers : List (Text × Json) → List Text
  | [] => []
  | (name, value) :: rest => (quote name ++ ':' :: compact value) :: compactMembers rest

end

/-- A line feed and the white space in front of what stands `depth` containers deep. -/
def newLine (step : Text) (depth : Nat) : Text := '\n' :: (List.replicate depth step).flatten

/-- The entries of a container, each on a line of its own. -/
def block (step : Text) (depth : Nat) (start stop : Char) (entries : List Text) : Text :=
  if entries.isEmpty then [start, stop]
  else
    start :: newLine step (depth + 1) ++
      Text.joinWith (',' :: newLine step (depth + 1)) entries ++ newLine step depth ++ [stop]

mutual

/-- The text of a value that stands `depth` containers deep, with `step` as the white space that
each container adds. -/
def indented (step : Text) (depth : Nat) : Json → Text
  | array items => block step depth '[' ']' (indentedItems step (depth + 1) items)
  | object members =>
    block step depth '\x7b' '\x7d' (indentedMembers step (depth + 1) members)
  | scalar => scalarText scalar

def indentedItems (step : Text) (depth : Nat) : List Json → List Text
  | [] => []
  | item :: rest => indented step depth item :: indentedItems step depth rest

def indentedMembers (step : Text) (depth : Nat) : List (Text × Json) → List Text
  | [] => []
  | (name, value) :: rest =>
    (quote name ++ ": ".toList ++ indented step depth value) :: indentedMembers step depth rest

end

/-- The text of a value with one entry a line and a number of spaces for each level. -/
def pretty (spaces : Nat) (value : Json) : Text :=
  indented (List.replicate spaces ' ') 0 value

end LocaleLint.Json
