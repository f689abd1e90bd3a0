import LocaleLint.CommandLine.Basic
import LocaleLint.Number.Numeral

/-!
# Options

The options of each command, their names, and what they set.
-/

namespace LocaleLint

/-- The options. -/
inductive Flag where
  | project
  | languages
  | ignore
  | settingsFile
  | verbose
  | zombie
  | absent
  | empty
  | misprint
  | deepSearch
  | misprintCoefficient
  | maxWarnings
  | ignoredKeys
  | ignoredMisprints
  | customPattern
  | fixZombies
  | format
  | help
  | version
deriving Repr, DecidableEq

namespace Flag

def longName : Flag → Text
  | project => "project".toList
  | languages => "languages".toList
  | ignore => "ignore".toList
  | settingsFile => "config".toList
  | verbose => "verbose".toList
  | zombie => "zombie-keys".toList
  | absent => "keys-on-views".toList
  | empty => "empty-keys".toList
  | misprint => "misprint-keys".toList
  | deepSearch => "deep-search".toList
  | misprintCoefficient => "misprint-coefficient".toList
  | maxWarnings => "max-warning".toList
  | ignoredKeys => "ignored-keys".toList
  | ignoredMisprints => "ignored-misprint-keys".toList
  | customPattern => "custom-regexp".toList
  | fixZombies => "fix-zombies-keys".toList
  | format => "format".toList
  | help => "help".toList
  | version => "version".toList

def letter? : Flag → Option Char
  | project => some 'p'
  | languages => some 'l'
  | ignore => some 'i'
  | verbose => some 'v'
  | zombie => some 'z'
  | help => some 'h'
  | version => some 'V'
  | _ => none

/-- The options that take no value. -/
def isSwitch : Flag → Bool
  | verbose => true
  | fixZombies => true
  | help => true
  | version => true
  | _ => false

/-- The options that may be given several times. -/
def isRepeatable : Flag → Bool
  | ignoredKeys => true
  | ignoredMisprints => true
  | customPattern => true
  | _ => false

/-- The options in front of a command. -/
def global : List Flag := [help, version]

/-- The options of all commands that read files. -/
def common : List Flag := [project, languages, ignore, settingsFile, verbose, help]

/-- The options of the command that checks keys. -/
def ofCheck : List Flag :=
  common ++ [zombie, absent, empty, misprint, deepSearch, misprintCoefficient, maxWarnings,
    ignoredKeys, ignoredMisprints, customPattern, fixZombies, format]

def ofKeys : List Flag := common ++ [deepSearch]

end Flag

namespace Options

/-- The meaning of one of several words. -/
def wordValue {α : Type} (words : List (Text × α)) (value : Text) : Except Refusal α :=
  match words.lookup value with
  | some a => .ok a
  | none => .error .valueNotAllowed

def readValue {α : Type} (result : Option α) : Except Refusal α :=
  match result with
  | some a => .ok a
  | none => .error .valueInvalid

/-- Adds values to those that are set already. -/
def more (values : List Text) (old : Option (List Text)) : Option (List Text) :=
  some (old.getD [] ++ values)

/-- Options with one more of them set. A switch takes no notice of the value. -/
def set (options : Options) (flag : Flag) (value : Text) : Except Refusal Options := do
  let layer := options.layer
  let rules := layer.rules
  let withLayer (layer : Layer) : Except Refusal Options := return { options with layer := layer }
  let withRules (rules : RuleLayer) : Except Refusal Options :=
    withLayer { layer with rules := rules }
  match flag with
  | .project => withLayer { layer with project := value }
  | .languages => withLayer { layer with languages := value }
  | .ignore => withLayer { layer with ignore := Text.listItems value }
  | .settingsFile =>
    if value.isEmpty then throw .valueNotAllowed
    return { options with settingsFile := value }
  | .verbose => return { options with verbose := true }
  | .zombie => withRules { rules with zombie := ← wordValue Level.words value }
  | .absent => withRules { rules with absent := ← wordValue Level.words value }
  | .empty => withRules { rules with empty := ← wordValue Level.words value }
  | .misprint => withRules { rules with misprint := ← wordValue Level.words value }
  | .deepSearch => withRules { rules with deepSearch := ← wordValue Toggle.words value }
  | .misprintCoefficient =>
    withRules { rules with misprintCoefficient := ← readValue (Double.ofNumeral? value) }
  | .maxWarnings => withRules { rules with maxWarnings := ← readValue (Text.toIndex? value) }
  | .ignoredKeys =>
    withRules { rules with ignoredKeys := more (Text.splitOn ',' value) rules.ignoredKeys }
  | .ignoredMisprints =>
    withRules
      { rules with ignoredMisprints := more (Text.splitOn ',' value) rules.ignoredMisprints }
  | .customPattern =>
    withRules { rules with customPatterns := more [value] rules.customPatterns }
  | .fixZombies => withLayer { layer with fixZombies := true }
  | .format => return { options with format := ← wordValue ReportFormat.words value }
  | .help => throw .helpAsked
  | .version => throw .versionAsked

end Options

end LocaleLint
