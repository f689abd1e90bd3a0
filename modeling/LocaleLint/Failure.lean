import LocaleLint.Files.Glob
import LocaleLint.Files.Tree
import LocaleLint.Json.Fault
import LocaleLint.Pattern.Fault

/-!
# Failures

The causes for which a run stops, and their wording.
-/

namespace LocaleLint

/-- A pattern that does not compile: how it is named, and what is wrong with it. -/
structure PatternError where
  pattern : Text
  fault : Pattern.Fault
deriving Repr, DecidableEq

/-- What a run is told to look at. -/
inductive Target where
  | project
  | languages
deriving Repr, DecidableEq

def Target.name : Target → Text
  | project => "project".toList
  | languages => "languages".toList

/-- The causes for which a run stops. -/
inductive Failure where
  | pathMissing (target : Target)
  | rulesInvalid (detail : Text)
  | patternInvalid (error : PatternError)
  | globInvalid (pattern : Text) (error : GlobError)
  | accessFailed (path : Text) (fault : FileFault)
  | jsonInvalid (path : Text) (fault : Json.Fault) (place : Json.Place)
deriving Repr, DecidableEq

namespace Failure

/-- The wording of the cause inside a failure, if the failure has one. -/
def reason? : Failure → Option Text
  | pathMissing _ => none
  | rulesInvalid _ => none
  | patternInvalid error => some error.fault.message
  | globInvalid _ error => some error.message
  | accessFailed _ fault => some fault.message
  | jsonInvalid _ fault place => some (Json.atPlace fault.message (some place))

/-- The wording of a failure without the cause inside it. -/
def heading : Failure → Text
  | pathMissing target => "Path to ".toList ++ target.name ++ " is missing".toList
  | rulesInvalid detail => "Rule config is incorrect: ".toList ++ detail
  | patternInvalid error =>
    "Invalid regular expression \"".toList ++ error.pattern ++ ['"']
  | globInvalid pattern _ => "Invalid glob pattern \"".toList ++ pattern ++ ['"']
  | accessFailed path _ => "Failed to access file ".toList ++ path
  | jsonInvalid path _ _ => "Failed to parse JSON file ".toList ++ path

def message (failure : Failure) : Text :=
  match failure.reason? with
  | none => failure.heading
  | some reason => failure.heading ++ ": ".toList ++ reason

end Failure

end LocaleLint
