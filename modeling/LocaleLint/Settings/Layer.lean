import LocaleLint.Settings.Rules

/-!
# Settings

What a run looks at, and how its rules are set. The settings of a run are the defaults with two
layers over them, first the one of a file and then the one of the command line.
-/

namespace LocaleLint

/-- Some of the settings. -/
structure Layer where
  project : Option Text := none
  languages : Option Text := none
  ignore : Option (List Text) := none
  fixZombies : Option Bool := none
  rules : RuleLayer := {}
deriving Repr, DecidableEq

/-- The settings of a run. -/
structure Settings where
  project : Text
  languages : Text
  ignore : List Text
  fixZombies : Bool
  rules : RuleSettings
deriving Repr, DecidableEq

namespace Settings

/-- The settings when nothing is set. -/
def default : Settings where
  project := "./src/app/**/*.\x7bhtml,ts\x7d".toList
  languages := "./src/assets/i18n/*.json".toList
  ignore := []
  fixZombies := false
  rules := .default

/-- Settings with what a layer sets put in. -/
def withLayer (settings : Settings) (layer : Layer) : Settings where
  project := layer.project.getD settings.project
  languages := layer.languages.getD settings.languages
  ignore := layer.ignore.getD settings.ignore
  fixZombies := layer.fixZombies.getD settings.fixZombies
  rules := layer.rules.apply settings.rules

/-- The settings of a run, from the layer of a file and the layer of a command line. -/
def merge (file commandLine : Layer) : Settings :=
  (default.withLayer file).withLayer commandLine

/-- The layer that sets everything. -/
def toLayer (settings : Settings) : Layer where
  project := settings.project
  languages := settings.languages
  ignore := settings.ignore
  fixZombies := settings.fixZombies
  rules := .ofSettings settings.rules

end Settings

end LocaleLint
