import LocaleLint.Number.Double
import LocaleLint.Settings.Layer

/-!
# Commands and options

What a command line asks for. Options set a layer of settings; those that are not given are left to
the settings file.
-/

namespace LocaleLint

inductive ReportFormat where
  | text
  | json
deriving Repr, DecidableEq

namespace ReportFormat

def words : List (Text × ReportFormat) := [("text".toList, text), ("json".toList, json)]

def word : ReportFormat → Text
  | text => "text".toList
  | json => "json".toList

end ReportFormat

/-- What the options of a command ask for. -/
structure Options where
  layer : Layer := {}
  settingsFile : Option Text := none
  verbose : Bool := false
  format : ReportFormat := .text
deriving Repr, DecidableEq

/-- What a command line asks for. -/
inductive Command where
  /-- Without a command, an overview of the commands is printed. -/
  | overview
  | check (options : Options)
  | keys (options : Options)
  | init
deriving Repr, DecidableEq

/-- Why a command line is not carried out. -/
inductive Refusal where
  | unknownArgument
  | unknownCommand
  | valueNotAllowed
  | valueInvalid
  | valueSuperfluous
  | optionRepeated
  | helpAsked
  | versionAsked
deriving Repr, DecidableEq

/-- The exit code of a refusal; to ask for help or the version is no mistake. -/
def Refusal.exitCode : Refusal → Nat
  | helpAsked => 0
  | versionAsked => 0
  | _ => 2

end LocaleLint
