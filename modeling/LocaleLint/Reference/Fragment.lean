import LocaleLint.Text.Basic

/-!
# Forms of references

The forms in which a view refers to a key, each as a pattern of its own. The key is the first group
of the pattern that takes part in a match, or the whole match.
-/

namespace LocaleLint

/-- The forms of references that are always looked for. -/
inductive BuiltinForm where
  /-- The key is the content of an element with a bare `translate` attribute. -/
  | directiveContent
  /-- The key is the value of a `translate` attribute. -/
  | directiveAttribute
  /-- The key stands in quotes and goes through the `translate` filter, maybe behind others. -/
  | pipe
deriving Repr, DecidableEq

namespace BuiltinForm

/-- The forms in the order in which they are tried. -/
def all : List BuiltinForm := [directiveContent, directiveAttribute, pipe]

def name : BuiltinForm → Text
  | directiveContent => "DirectiveContent".toList
  | directiveAttribute => "DirectiveAttribute".toList
  | pipe => "Pipe".toList

def source : BuiltinForm → Text
  | directiveContent =>
    ("<[^<>]*?\\s(?:translate|TRANSLATE)(?:\\s[^<>]*)?>" ++
      "\\s*([A-Za-z0-9_.\\-]+)\\s*</").toList
  | directiveAttribute =>
    ("(?:\\[translate\\]|\\btranslate)=[\"']\x7b1,2\x7d" ++
      "([A-Za-z0-9_.\\-]+)[\"']\x7b1,2\x7d").toList
  | pipe =>
    ("['\"]([A-Za-z0-9_.\\-]+)['\"]" ++
      "\\s*(?:\\|\\s*\\w+\\s*(?::[^|\x7d'\"]*)?)*?\\|\\s*translate\\b").toList

end BuiltinForm

/-- A form of references. -/
inductive Fragment where
  /-- Declared keys as they are, where no key character touches them. -/
  | declared (keys : List Text)
  | builtin (form : BuiltinForm)
  /-- A pattern of the user, which may be written between slashes. -/
  | custom (pattern : Text)
deriving Repr, DecidableEq

namespace Fragment

/-- The name of the group around a declared key. -/
def declaredGroup : Text := "declared".toList

/-- The order in which declared keys are tried: the longest first, so that no key hides a longer
one that begins with it. -/
def longerFirst (a b : Text) : Bool :=
  if a.utf8Length = b.utf8Length then Text.le a b else decide (b.utf8Length < a.utf8Length)

/-- A list without the elements that repeat the one before them. -/
def dropRepeats : List Text → List Text
  | a :: b :: rest => if a = b then dropRepeats (b :: rest) else a :: dropRepeats (b :: rest)
  | keys => keys

/-- The declared keys to look for, in the order in which they are tried. -/
def searchOrder (keys : List Text) : List Text :=
  dropRepeats ((keys.filter (· ≠ [])).mergeSort longerFirst)

/-- The characters that a pattern takes for themselves only behind a backslash. -/
def isSpecial (c : Char) : Bool := "\\.+*?()|[]\x7b\x7d^$#&-~".toList.contains c

/-- A pattern that matches a text and nothing else. -/
def escape (text : Text) : Text := text.flatMap fun c => if isSpecial c then ['\\', c] else [c]

/-- The letters that may stand behind the last slash of a pattern between slashes. -/
def isFlagLetter (c : Char) : Bool := "gimsuy".toList.contains c

/-- Cuts a text at the last place of a character. -/
def cutAtLast? (c : Char) (text : Text) : Option (Text × Text) :=
  match text.reverse.span (· ≠ c) with
  | (_, []) => none
  | (after, _ :: before) => some (before.reverse, after.reverse)

/-- A pattern without the slashes and the flags around it, if it is written between slashes. -/
def stripSlashes (pattern : Text) : Text :=
  match pattern with
  | '/' :: rest =>
    match cutAtLast? '/' rest with
    | some (inside, flags) => if flags.all isFlagLetter then inside else pattern
    | none => pattern
  | _ => pattern

/-- The pattern of a form. -/
def source : Fragment → Text
  | declared keys =>
    "(?P<".toList ++ declaredGroup ++ ['>'] ++
      Text.joinWith ['|'] ((searchOrder keys).map escape) ++ [')']
  | builtin form => form.source
  | custom pattern => stripSlashes pattern

/-- Whether a form has nothing to look for. -/
def isEmpty : Fragment → Bool
  | declared keys => keys.all List.isEmpty
  | builtin _ => false
  | custom pattern => (stripSlashes pattern).isEmpty

/-- How a form is named in messages. -/
def label : Fragment → Text
  | declared keys => ['<'] ++ Text.ofNat keys.length ++ " declared keys>".toList
  | builtin form => "<builtin ".toList ++ form.name ++ ['>']
  | custom pattern => pattern

/-- The forms to look for: the declared keys if the search is deep, the built-in forms, and the
patterns of the user. -/
def compose (declaredKeys customPatterns : List Text) (deep : Bool) : List Fragment :=
  let declaredForms := if deep then [declared declaredKeys] else []
  (declaredForms ++ BuiltinForm.all.map builtin ++ customPatterns.map custom).filter (!·.isEmpty)

end Fragment

end LocaleLint
