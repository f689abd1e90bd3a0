import LocaleLint.Finding.Check
import LocaleLint.Finding.Outcome
import LocaleLint.Number.Decimal

/-!
# Rule settings

How each rule is set, and when a setting of the rules makes sense. A layer sets some of the fields
and leaves the others as they are.
-/

namespace LocaleLint

/-- How much the findings of a rule matter, if it runs at all. -/
inductive Level where
  | disable
  | warning
  | error
deriving Repr, DecidableEq

namespace Level

def words : List (Text × Level) :=
  [("disable".toList, disable), ("warning".toList, warning), ("error".toList, error)]

def word : Level → Text
  | disable => "disable".toList
  | warning => "warning".toList
  | error => "error".toList

def severity? : Level → Option Severity
  | disable => none
  | warning => some .warning
  | error => some .error

end Level

/-- Whether something is on. -/
inductive Toggle where
  | disable
  | enable
deriving Repr, DecidableEq

namespace Toggle

def words : List (Text × Toggle) := [("disable".toList, disable), ("enable".toList, enable)]

def word : Toggle → Text
  | disable => "disable".toList
  | enable => "enable".toList

def isOn : Toggle → Bool
  | disable => false
  | enable => true

end Toggle

/-- How the rules are set. -/
structure RuleSettings where
  zombie : Level
  absent : Level
  misprint : Level
  empty : Level
  maxWarnings : Nat
  deepSearch : Toggle
  misprintCoefficient : Double
  ignoredKeys : List Text
  ignoredMisprints : List Text
  customPatterns : List Text
deriving Repr, DecidableEq

namespace RuleSettings

/-- How similar a key has to be for a suggestion, unless it is set: nine tenths. -/
def defaultCoefficient : Double := .nearest false 9 10

/-- The settings of the rules when nothing is set. -/
def default : RuleSettings where
  zombie := .warning
  absent := .error
  misprint := .disable
  empty := .warning
  maxWarnings := 0
  deepSearch := .disable
  misprintCoefficient := defaultCoefficient
  ignoredKeys := []
  ignoredMisprints := []
  customPatterns := []

/-- Makes sure that the coefficient lies between zero and one and that all patterns compile. -/
def validate (rules : RuleSettings) : Except Failure Unit := do
  unless Double.zero.le rules.misprintCoefficient && rules.misprintCoefficient.le .one do
    throw (.rulesInvalid
      ("misprintCoefficient must be between 0 and 1, got ".toList ++
        rules.misprintCoefficient.plainText))
  let _ ← ignorePatterns rules.ignoredKeys
  let _ ← KeyPattern.ofFragments (Fragment.compose [] rules.customPatterns false)

def anyEnabled (rules : RuleSettings) : Bool :=
  [rules.zombie, rules.absent, rules.misprint, rules.empty].any (· ≠ .disable)

/-- The checks that run, in order. -/
def checks (rules : RuleSettings) : List Check :=
  (rules.zombie.severity?.map Check.zombie).toList ++
    (rules.absent.severity?.map Check.absent).toList ++
    (rules.misprint.severity?.map fun severity =>
      Check.misprint severity rules.misprintCoefficient rules.ignoredMisprints).toList ++
    (rules.empty.severity?.map Check.empty).toList

end RuleSettings

inductive RuleField where
  | zombie
  | absent
  | misprint
  | empty
  | maxWarnings
  | deepSearch
  | misprintCoefficient
  | ignoredKeys
  | ignoredMisprints
  | customPatterns
deriving Repr, DecidableEq

namespace RuleField

/-- The fields in the order in which they are written. -/
def all : List RuleField :=
  [zombie, absent, misprint, empty, maxWarnings, deepSearch, misprintCoefficient, ignoredKeys,
    ignoredMisprints, customPatterns]

/-- The fields that complete settings have to give. -/
def required : List RuleField := [zombie, absent, misprint, empty, maxWarnings]

def name : RuleField → Text
  | zombie => Rule.zombie.fieldName
  | absent => Rule.absent.fieldName
  | misprint => Rule.misprint.fieldName
  | empty => Rule.empty.fieldName
  | maxWarnings => "maxWarning".toList
  | deepSearch => "deepSearch".toList
  | misprintCoefficient => "misprintCoefficient".toList
  | ignoredKeys => "ignoredKeys".toList
  | ignoredMisprints => "ignoredMisprintKeys".toList
  | customPatterns => "customRegExpToFindKeys".toList

def names : List Text := all.map name

def ofName? (text : Text) : Option RuleField := all.find? (·.name = text)

end RuleField

/-- Some fields of rule settings. -/
structure RuleLayer where
  zombie : Option Level := none
  absent : Option Level := none
  misprint : Option Level := none
  empty : Option Level := none
  maxWarnings : Option Nat := none
  deepSearch : Option Toggle := none
  misprintCoefficient : Option Double := none
  ignoredKeys : Option (List Text) := none
  ignoredMisprints : Option (List Text) := none
  customPatterns : Option (List Text) := none
deriving Repr, DecidableEq

namespace RuleLayer

def sets (layer : RuleLayer) : RuleField → Bool
  | .zombie => layer.zombie.isSome
  | .absent => layer.absent.isSome
  | .misprint => layer.misprint.isSome
  | .empty => layer.empty.isSome
  | .maxWarnings => layer.maxWarnings.isSome
  | .deepSearch => layer.deepSearch.isSome
  | .misprintCoefficient => layer.misprintCoefficient.isSome
  | .ignoredKeys => layer.ignoredKeys.isSome
  | .ignoredMisprints => layer.ignoredMisprints.isSome
  | .customPatterns => layer.customPatterns.isSome

/-- Settings with the fields that a layer sets put in. -/
def apply (layer : RuleLayer) (base : RuleSettings) : RuleSettings where
  zombie := layer.zombie.getD base.zombie
  absent := layer.absent.getD base.absent
  misprint := layer.misprint.getD base.misprint
  empty := layer.empty.getD base.empty
  maxWarnings := layer.maxWarnings.getD base.maxWarnings
  deepSearch := layer.deepSearch.getD base.deepSearch
  misprintCoefficient := layer.misprintCoefficient.getD base.misprintCoefficient
  ignoredKeys := layer.ignoredKeys.getD base.ignoredKeys
  ignoredMisprints := layer.ignoredMisprints.getD base.ignoredMisprints
  customPatterns := layer.customPatterns.getD base.customPatterns

/-- The layer that sets every field. -/
def ofSettings (rules : RuleSettings) : RuleLayer where
  zombie := rules.zombie
  absent := rules.absent
  misprint := rules.misprint
  empty := rules.empty
  maxWarnings := rules.maxWarnings
  deepSearch := rules.deepSearch
  misprintCoefficient := rules.misprintCoefficient
  ignoredKeys := rules.ignoredKeys
  ignoredMisprints := rules.ignoredMisprints
  customPatterns := rules.customPatterns

end RuleLayer

end LocaleLint
