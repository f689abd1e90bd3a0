import LocaleLint.Json.Scanner

/-!
# Reading JSON

The value that a text stands for. Containers nest at most `depthLimit` deep; a name that an object
repeats keeps its first place and takes the last value. Main function: `Json.ofText`.
-/

namespace LocaleLint.Json

/-- How deep containers nest. -/
def depthLimit : Nat := 127

/-- Goes on to the next item of an array: its text, or the rest behind the closing bracket. -/
def nextItem (first : Bool) (text : Text) : Scan (Sum Text Text) :=
  match skipBlank text with
  | [] => stopAt .endInList []
  | ']' :: rest => .ok (.inr rest)
  | c :: rest =>
    if first then .ok (.inl (c :: rest))
    else if c = ',' then
      match skipBlank rest with
      | [] => stopAt .endInValue []
      | ']' :: rest => stopAt .commaTrailing (']' :: rest)
      | rest => .ok (.inl rest)
    else stopAt .listCommaMissing (c :: rest)

/-- Goes on to the next name of an object: its text behind the quote, or the rest behind the
closing brace. -/
def nextName (first : Bool) (text : Text) : Scan (Sum Text Text) :=
  match skipBlank text with
  | [] => stopAt .endInObject []
  | '\x7d' :: rest => .ok (.inr rest)
  | c :: rest =>
    if first then
      if c = '"' then .ok (.inl rest) else stopAt .nameMissing (c :: rest)
    else if c = ',' then
      match skipBlank rest with
      | [] => stopAt .endInValue []
      | '"' :: rest => .ok (.inl rest)
      | '\x7d' :: rest => stopAt .commaTrailing ('\x7d' :: rest)
      | rest => stopAt .nameMissing rest
    else stopAt .objectCommaMissing (c :: rest)

/-- Reads the colon behind a name. -/
def readColon (text : Text) : Scan Text :=
  match skipBlank text with
  | [] => stopAt .endInObject []
  | ':' :: rest => .ok rest
  | rest => stopAt .colonMissing rest

/-- Reads the items of an array behind the opening bracket. Each takes a character at least, so
`fuel` is the length of the text. -/
def readItems (readItem : Text → Scan (Json × Text)) :
    (fuel : Nat) → (first : Bool) → Text → Scan (List Json × Text)
  | 0, _, text => stopAt .endInList text
  | fuel + 1, first, text => do
    match ← nextItem first text with
    | .inr rest => return ([], rest)
    | .inl text =>
      let (item, rest) ← readItem text
      let (items, rest) ← readItems readItem fuel false rest
      return (item :: items, rest)

/-- Reads the members of an object behind the opening brace. Each takes a character at least, so
`fuel` is the length of the text. -/
def readMembers (readItem : Text → Scan (Json × Text)) :
    (fuel : Nat) → (first : Bool) → Text → Scan (List (Text × Json) × Text)
  | 0, _, text => stopAt .endInObject text
  | fuel + 1, first, text => do
    match ← nextName first text with
    | .inr rest => return ([], rest)
    | .inl text =>
      let (name, rest) ← readString text
      let rest ← readColon rest
      let (value, rest) ← readItem rest
      let (members, rest) ← readMembers readItem fuel false rest
      return ((name, value) :: members, rest)

/-- Reads a container behind its opening character, if containers may still be opened. -/
def readContainer (readItem : Option (Text → Scan (Json × Text))) (c : Char) (rest : Text) :
    Scan (Json × Text) :=
  match readItem with
  | none => stopAt .nestedTooDeep (c :: rest)
  | some readItem =>
    if c = '[' then do
      let (items, rest) ← readItems readItem (rest.length + 1) true rest
      return (array items, rest)
    else do
      let (members, rest) ← readMembers readItem (rest.length + 1) true rest
      return (object (Members.ofPairs members), rest)

/-- Reads a value, with a reader for the values in it. -/
def readWith (readItem : Option (Text → Scan (Json × Text))) (text : Text) : Scan (Json × Text) :=
  match skipBlank text with
  | [] => stopAt .endInValue []
  | c :: rest =>
    if c = '[' ∨ c = '\x7b' then readContainer readItem c rest
    else if c = '"' then do
      let (s, rest) ← readString rest
      return (string s, rest)
    else if c = '-' then do
      let (n, rest) ← readUnsigned true rest
      return (number n, rest)
    else if isDigit c then do
      let (n, rest) ← readUnsigned false (c :: rest)
      return (number n, rest)
    else match c with
      | 'n' => return (null, ← readWord "ull".toList rest)
      | 't' => return (bool true, ← readWord "rue".toList rest)
      | 'f' => return (bool false, ← readWord "alse".toList rest)
      | _ => stopAt .valueMissing (c :: rest)

/-- Reads a value in which containers nest at most `depth` deep. -/
def readValue : (depth : Nat) → Text → Scan (Json × Text)
  | 0, text => readWith none text
  | depth + 1, text => readWith (some (readValue depth)) text

/-- Makes sure that only white space is left. -/
def readEnd (text : Text) : Scan Unit :=
  match skipBlank text with
  | [] => .ok ()
  | rest => stopAt .textTrailing rest

def readDocument (text : Text) : Scan Json := do
  let (value, rest) ← readValue depthLimit text
  readEnd rest
  return value

/-- The value of a text, or what is wrong with the text and where. -/
def ofText (text : Text) : Except (Fault × Place) Json :=
  (readDocument text).mapError fun stop => (stop.cause, stop.place text)

end LocaleLint.Json
