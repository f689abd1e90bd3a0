import LocaleLint.Json.Typed
import LocaleLint.Settings.Layer

/-!
# Settings as JSON

How settings are written and read. The fields of the rules stand in an object of their own or beside
the other settings, but not in both places; a list of rule fields gives all of them in order.
-/

namespace LocaleLint

open Json (Mismatch Typed)

namespace RuleLayer

/-- A field as JSON, if it is set. A double that is not finite is written as nothing. -/
def fieldJson? (layer : RuleLayer) : RuleField → Option Json
  | .zombie => layer.zombie.map (.string ·.word)
  | .absent => layer.absent.map (.string ·.word)
  | .misprint => layer.misprint.map (.string ·.word)
  | .empty => layer.empty.map (.string ·.word)
  | .maxWarnings => layer.maxWarnings.map .ofNat
  | .deepSearch => layer.deepSearch.map (.string ·.word)
  | .misprintCoefficient => layer.misprintCoefficient.map (.number <| .double ·)
  | .ignoredKeys => layer.ignoredKeys.map .ofTexts
  | .ignoredMisprints => layer.ignoredMisprints.map .ofTexts
  | .customPatterns => layer.customPatterns.map .ofTexts

/-- A layer as a JSON object of the fields that are set. -/
def toJson (layer : RuleLayer) : Json :=
  .object (RuleField.all.filterMap fun field =>
    (layer.fieldJson? field).map fun value => (field.name, value))

end RuleLayer

def RuleSettings.toJson (rules : RuleSettings) : Json := (RuleLayer.ofSettings rules).toJson

namespace Layer

/-- The names of the settings beside the rules. -/
def fieldNames : List Text :=
  ["project".toList, "languages".toList, "ignore".toList, "fixZombiesKeys".toList, "rules".toList]

/-- A layer as a JSON object of what is set. -/
def toJson (layer : Layer) : Json :=
  let member (name : String) (value : Option Json) : Json.Members :=
    (value.map fun value => (name.toList, value)).toList
  .object (member "project" (layer.project.map .string) ++
    member "languages" (layer.languages.map .string) ++
    member "ignore" (layer.ignore.map .ofTexts) ++
    member "fixZombiesKeys" (layer.fixZombies.map .bool) ++
    member "rules" (some layer.rules.toJson))

end Layer

namespace RuleLayer

/-- Sets a field by a value; a value that is nothing leaves it open. -/
def decodeField (layer : RuleLayer) (value : Json) : RuleField → Except Mismatch RuleLayer
  | .zombie => do return { layer with zombie := ← value.toOption (Json.toWord Level.words) }
  | .absent => do return { layer with absent := ← value.toOption (Json.toWord Level.words) }
  | .misprint => do return { layer with misprint := ← value.toOption (Json.toWord Level.words) }
  | .empty => do return { layer with empty := ← value.toOption (Json.toWord Level.words) }
  | .maxWarnings => do return { layer with maxWarnings := ← value.toOption Json.toCount }
  | .deepSearch => do
    return { layer with deepSearch := ← value.toOption (Json.toWord Toggle.words) }
  | .misprintCoefficient => do
    return { layer with misprintCoefficient := ← value.toOption Json.toDouble }
  | .ignoredKeys => do return { layer with ignoredKeys := ← value.toOption Json.toTexts }
  | .ignoredMisprints => do return { layer with ignoredMisprints := ← value.toOption Json.toTexts }
  | .customPatterns => do return { layer with customPatterns := ← value.toOption Json.toTexts }

/-- Sets a field by a member of an object. -/
def decodeMember (layer : RuleLayer) (member : Text × Json) : Except Mismatch RuleLayer :=
  match RuleField.ofName? member.1 with
  | some field => layer.decodeField member.2 field
  | none => .error (.unknownField member.1 RuleField.names)

/-- What a list of rule fields is expected to be. -/
def expectedItems : Text := "struct RulesLayer with 10 elements".toList

def decodeItems : List RuleField → List Json → RuleLayer → Except Mismatch RuleLayer
  | [], _, layer => .ok layer
  | field :: _, [], _ =>
    .error (.wrongLength (RuleField.all.findIdx (· = field)) expectedItems)
  | field :: fields, item :: items, layer => do
    decodeItems fields items (← layer.decodeField item field)

def decode : Json → Except Mismatch RuleLayer
  | .object members => members.foldlM decodeMember {}
  | .array items => do
    let layer ← decodeItems RuleField.all items {}
    if RuleField.all.length < items.length then
      throw (.wrongLength items.length "fewer elements in array".toList)
    return layer
  | value => Json.wrongType value "struct RulesLayer"

end RuleLayer

namespace Layer

/-- The items of a list of paths: a text with commas, or several of them. -/
def decodeList : Json → Except Mismatch (List Text)
  | .string s => .ok (Text.listItems s)
  | .array items =>
    match items.mapM Json.string? with
    | some texts => .ok (texts.flatMap Text.listItems)
    | none => .error misfit
  | _ => .error misfit
where
  /-- What is said of a value that is no list of paths. -/
  misfit : Mismatch :=
    .noneFits "data did not match any variant of untagged enum ListValue".toList

/-- A layer of which the rules may still be open. -/
structure Open where
  layer : Layer := {}
  rules : Option RuleLayer := none

/-- Sets one of the settings by a member of an object. -/
def Open.decodeMember (opened : Open) (member : Text × Json) : Except Mismatch Open := do
  let (name, value) := member
  let layer := opened.layer
  if name = "project".toList then
    return { opened with layer := { layer with project := ← value.toOption Json.toText } }
  else if name = "languages".toList then
    return { opened with layer := { layer with languages := ← value.toOption Json.toText } }
  else if name = "ignore".toList then
    return { opened with layer := { layer with ignore := ← value.toOption decodeList } }
  else if name = "fixZombiesKeys".toList then
    return { opened with layer := { layer with fixZombies := ← value.toOption Json.toBool } }
  else if name = "rules".toList then
    return { opened with rules := ← value.toOption RuleLayer.decode }
  else throw (.unknownField name fieldNames)

def decode (members : Json.Members) : Except Mismatch Layer := do
  let (named, flat) := members.partition fun member => fieldNames.contains member.1
  let opened ← named.foldlM Open.decodeMember {}
  let rules ← RuleLayer.decode (.object flat)
  match opened.rules with
  | none => return { opened.layer with rules := rules }
  | some nested =>
    if flat.isEmpty then return { opened.layer with rules := nested }
    else throw (.noneFits
      ("rule fields must be nested under \"rules\" or placed at the top level, " ++
        "not both").toList)

end Layer

namespace Layer

/-- Reads the members of the object that a text holds, and what is left. -/
def readObject (text : Text) : Typed (Json.Members × Text) :=
  match Json.skipBlank text with
  | [] => Json.faultAt .endInValue []
  | '\x7b' :: _ => do
    let (value, rest) ← Json.untyped (Json.readValue Json.depthLimit text)
    match value with
    | .object members => return (members, rest)
    | _ => Json.readWrong "a map".toList text
  | text => Json.readWrong "a map".toList text

/-- The layer of a text. A mismatch inside the object has no place. -/
def ofText (text : Text) : Except Json.Error Layer := do
  let (members, rest) ← (readObject text).mapError (.ofStop text)
  let layer ← (decode members).mapError fun mismatch => ⟨.mismatch mismatch, none⟩
  (Json.untyped (Json.readEnd rest)).mapError (.ofStop text)
  return layer

end Layer

namespace RuleLayer

/-- Reads the value of a field and sets the field by it. -/
def readField (layer : RuleLayer) (field : RuleField) (text : Text) : Typed (RuleLayer × Text) := do
  match field with
  | .zombie =>
    let (value, rest) ← Json.readWordIn Level.words text
    return ({ layer with zombie := value }, rest)
  | .absent =>
    let (value, rest) ← Json.readWordIn Level.words text
    return ({ layer with absent := value }, rest)
  | .misprint =>
    let (value, rest) ← Json.readWordIn Level.words text
    return ({ layer with misprint := value }, rest)
  | .empty =>
    let (value, rest) ← Json.readWordIn Level.words text
    return ({ layer with empty := value }, rest)
  | .maxWarnings =>
    let (value, rest) ← Json.readCount text
    return ({ layer with maxWarnings := value }, rest)
  | .deepSearch =>
    let (value, rest) ← Json.readWordIn Toggle.words text
    return ({ layer with deepSearch := value }, rest)
  | .misprintCoefficient =>
    let (value, rest) ← Json.readDouble text
    return ({ layer with misprintCoefficient := value }, rest)
  | .ignoredKeys =>
    let (value, rest) ← Json.readTexts text
    return ({ layer with ignoredKeys := value }, rest)
  | .ignoredMisprints =>
    let (value, rest) ← Json.readTexts text
    return ({ layer with ignoredMisprints := value }, rest)
  | .customPatterns =>
    let (value, rest) ← Json.readTexts text
    return ({ layer with customPatterns := value }, rest)

end RuleLayer

namespace RuleSettings

/-- What complete settings are expected to be. -/
def expected : Text := "struct RuleConfig".toList

/-- Stops with a mismatch of a member, behind the closing brace if that comes next. -/
def stopAtMember {α : Type} (mismatch : Mismatch) (rest : Text) : Typed α :=
  match Json.skipBlank rest with
  | '\x7d' :: rest => Json.mismatchBefore mismatch rest
  | rest => Json.mismatchBefore mismatch rest

/-- Reads the members of an object of rule fields. Each takes a character at least, so `fuel` is the
length of the text. -/
def readMembers : (fuel : Nat) → (first : Bool) → Text → RuleLayer → Typed (RuleLayer × Text)
  | 0, _, text, _ => Json.faultAt .endInObject text
  | fuel + 1, first, text, layer => do
    match ← Json.untyped (Json.nextName first text) with
    | .inr rest =>
      match RuleField.required.find? (!layer.sets ·) with
      | some field => Json.mismatchBefore (.missingField field.name) rest
      | none => return (layer, rest)
    | .inl text =>
      let (name, rest) ← Json.untyped (Json.readString text)
      match RuleField.ofName? name with
      | none => stopAtMember (.unknownField name RuleField.names) rest
      | some field =>
        if layer.sets field then stopAtMember (.duplicateField name) rest
        else
          let rest ← Json.untyped (Json.readColon rest)
          let (layer, rest) ← layer.readField field rest
          readMembers fuel false rest layer

/-- Reads the closing bracket of a list of rule fields. -/
def readClosing (text : Text) : Typed Text :=
  match Json.skipBlank text with
  | ']' :: rest => .ok rest
  | ',' :: rest =>
    match Json.skipBlank rest with
    | ']' :: rest => Json.faultAt .commaTrailing (']' :: rest)
    | rest => Json.faultAt .textTrailing rest
  | [] => Json.faultAt .endInList []
  | rest => Json.faultAt .textTrailing rest

/-- Reads the items of a list of rule fields, which gives all required ones and then as many of the
others as it likes. -/
def readItems : List RuleField → (first : Bool) → Text → RuleLayer → Typed (RuleLayer × Text)
  | [], _, text, layer => do return (layer, ← readClosing text)
  | field :: fields, first, text, layer => do
    match ← Json.untyped (Json.nextItem first text) with
    | .inr rest =>
      if RuleField.required.contains field then
        let index := RuleField.all.findIdx (· = field)
        Json.mismatchBefore (.wrongLength index (expected ++ " with 10 elements".toList)) rest
      else return (layer, rest)
    | .inl text =>
      let (layer, rest) ← layer.readField field text
      readItems fields false rest layer

/-- Reads the value of complete settings. -/
def readValue (text : Text) : Typed (RuleLayer × Text) :=
  match Json.skipBlank text with
  | [] => Json.faultAt .endInValue []
  | '\x7b' :: rest => readMembers (rest.length + 1) true rest {}
  | '[' :: rest => readItems RuleField.all true rest {}
  | text => Json.readWrong expected text

/-- The settings of a text. The required fields have to be there. -/
def ofText (text : Text) : Except Json.Error RuleSettings :=
  let result : Typed RuleSettings := do
    let (layer, rest) ← readValue text
    Json.untyped (Json.readEnd rest)
    return layer.apply default
  result.mapError (.ofStop text)

end RuleSettings

end LocaleLint
