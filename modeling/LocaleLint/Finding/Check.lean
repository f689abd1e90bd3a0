import LocaleLint.EditDistance
import LocaleLint.Finding.Basic
import LocaleLint.Language.Catalog
import LocaleLint.Reference.View

/-!
# Checks

The four rules, each as a function from the declared keys and the views to its findings. A check
is also given the keys that are used in any view, and the findings of those that ran before it. Main
function: `Check.runAll`.
-/

namespace LocaleLint

/-- A rule that is to run, with what it needs to know. -/
inductive Check where
  | zombie (severity : Severity)
  | absent (severity : Severity)
  | misprint (severity : Severity) (coefficient : Double) (ignored : List Text)
  | empty (severity : Severity)
deriving Repr, DecidableEq

namespace Check

def rule : Check → Rule
  | zombie _ => .zombie
  | absent _ => .absent
  | misprint _ _ _ => .misprint
  | empty _ => .empty

/-- A finding about an entry of a language file. -/
def onEntry (rule : Rule) (severity : Severity) (file : LanguageFile) (entry : LanguageEntry) :
    Finding :=
  ⟨entry.key, rule, severity, file.path, [], [], some ⟨entry.line, 1⟩, none⟩

/-- The findings about the entries of language files that pass a test. -/
def entriesWith (rule : Rule) (severity : Severity) (test : LanguageEntry → Bool)
    (files : List LanguageFile) : List Finding :=
  files.flatMap fun file => (file.entries.filter test).map (onEntry rule severity file)

/-- The keys that any view refers to. They are a set: only its members matter. -/
def usedKeys (views : List View) : List Text := views.flatMap (·.keyNames)

/-- The declared keys that are not used. -/
def findZombies (severity : Severity) (catalog : Catalog) (used : List Text) : List Finding :=
  entriesWith .zombie severity (fun entry => !used.contains entry.key) catalog.files

/-- The finding about a key of a view that some language files do not declare, or that none
declares. -/
def absentIn? (severity : Severity) (catalog : Catalog) (view : View) (key : Text) :
    Option Finding :=
  let files := catalog.filesWithout key
  if files.isEmpty && catalog.declares key then none
  else
    let first := view.first? key
    some ⟨key, .absent, severity, view.path, files, [],
      first.map fun o => ⟨o.line, o.column⟩, first.map (·.sourceLine)⟩

/-- The keys of views that some language files do not declare. -/
def findAbsent (severity : Severity) (catalog : Catalog) (views : List View) : List Finding :=
  views.flatMap fun view => view.keyNames.filterMap (absentIn? severity catalog view)

/-- The declared keys that are at least as similar to a suspect as the coefficient asks, the most
similar ones first. -/
def similarTo (coefficient : Double) (ignored declared : List Text) (suspect : Text) : List Text :=
  let others := declared.filter fun key => key ≠ suspect && !ignored.contains key
  let scored := others.map fun key => (EditDistance.score suspect key, key)
  let close := scored.filter fun (score, _) => coefficient.le score
  (close.mergeSort fun a b => b.1.le a.1).map (·.2)

/-- Whether a finding makes its key suspect of being misprinted. -/
def isSuspect (finding : Finding) : Bool :=
  match finding.rule with
  | .zombie => true
  | .absent => true
  | _ => false

/-- The finding about a suspect, unless no declared key is similar to it. -/
def misprintOf? (severity : Severity) (coefficient : Double) (ignored declared : List Text)
    (suspect : Finding) : Option Finding :=
  match similarTo coefficient ignored declared suspect.key with
  | [] => none
  | suggestions =>
    some { suspect with rule := .misprint, severity := severity, suggestions := suggestions }

/-- The suspects among earlier findings that are much like a declared key. -/
def findMisprints (severity : Severity) (coefficient : Double) (ignored : List Text)
    (catalog : Catalog) (earlier : List Finding) : List Finding :=
  let suspects := earlier.filter fun f => isSuspect f && !ignored.contains f.key
  suspects.filterMap (misprintOf? severity coefficient ignored catalog.keyNames)

/-- The declared keys with blank values. -/
def findEmpty (severity : Severity) (catalog : Catalog) : List Finding :=
  entriesWith .empty severity (fun entry => Text.isBlank entry.value) catalog.files

def run (check : Check) (catalog : Catalog) (views : List View) (used : List Text)
    (earlier : List Finding) : List Finding :=
  match check with
  | zombie severity => findZombies severity catalog used
  | absent severity => findAbsent severity catalog views
  | misprint severity coefficient ignored =>
    findMisprints severity coefficient ignored catalog earlier
  | empty severity => findEmpty severity catalog

/-- The findings of checks that run one after another. The used keys are collected once for all of
them. -/
def runAll (checks : List Check) (catalog : Catalog) (views : List View) : List Finding :=
  let used := usedKeys views
  checks.foldl (fun earlier check => earlier ++ check.run catalog views used earlier) []

end Check

end LocaleLint
