import Mathlib
import LocaleLint.Reference.Extraction

/-!
# The built-in forms letter by letter

A proof that evaluates a search has to take the patterns of the built-in forms apart, and that is
slow while they are strings. Here they are lists of characters, and the pattern of a search is
computed from these.
-/

namespace LocaleLint

/-- The characters of the pattern of a form. -/
def BuiltinForm.letters : BuiltinForm → Text
  | .directiveContent =>
    ['<', '[', '^', '<', '>', ']', '*', '?', '\\', 's', '(', '?', ':', 't', 'r', 'a', 'n', 's',
      'l', 'a', 't', 'e', '|', 'T', 'R', 'A', 'N', 'S', 'L', 'A', 'T', 'E', ')', '(', '?', ':',
      '\\', 's', '[', '^', '<', '>', ']', '*', ')', '?', '>', '\\', 's', '*', '(', '[', 'A', '-',
      'Z', 'a', '-', 'z', '0', '-', '9', '_', '.', '\\', '-', ']', '+', ')', '\\', 's', '*', '<',
      '/']
  | .directiveAttribute =>
    ['(', '?', ':', '\\', '[', 't', 'r', 'a', 'n', 's', 'l', 'a', 't', 'e', '\\', ']', '|', '\\',
      'b', 't', 'r', 'a', 'n', 's', 'l', 'a', 't', 'e', ')', '=', '[', '"', '\'', ']', '\x7b',
      '1', ',', '2', '\x7d', '(', '[', 'A', '-', 'Z', 'a', '-', 'z', '0', '-', '9', '_', '.',
      '\\', '-', ']', '+', ')', '[', '"', '\'', ']', '\x7b', '1', ',', '2', '\x7d']
  | .pipe =>
    ['[', '\'', '"', ']', '(', '[', 'A', '-', 'Z', 'a', '-', 'z', '0', '-', '9', '_', '.', '\\',
      '-', ']', '+', ')', '[', '\'', '"', ']', '\\', 's', '*', '(', '?', ':', '\\', '|', '\\',
      's', '*', '\\', 'w', '+', '\\', 's', '*', '(', '?', ':', ':', '[', '^', '|', '\x7d', '\'',
      '"', ']', '*', ')', '?', ')', '*', '?', '\\', '|', '\\', 's', '*', 't', 'r', 'a', 'n', 's',
      'l', 'a', 't', 'e', '\\', 'b']

theorem BuiltinForm.source_eq_letters (form : BuiltinForm) : form.source = form.letters := by
  cases form <;>
    exact String.toList_append.trans (congrArg₂ _ String.toList_ofList String.toList_ofList)

namespace KeyPattern

open Fragment

/-- The pattern for several forms of references, each with its name in messages and its pattern. -/
def ofSources (sources : List (Text × Text)) : Except Failure KeyPattern := do
  for source in sources do
    let _ ← compileAs source.1 source.2
  if sources.isEmpty then return ⟨none, 0⟩
  let combined := combine (sources.map Prod.snd)
  let pattern ← compileAs combined combined
  return ⟨some pattern, sources.length⟩

/-- The name of a form in messages, and its pattern. -/
def labelled (fragment : Fragment) : Text × Text := (fragment.label, fragment.source)

theorem ofFragments_eq_ofSources (fragments : List Fragment) :
    ofFragments fragments = ofSources (fragments.map labelled) := by
  have sources : (fragments.map labelled).map Prod.snd = fragments.map Fragment.source := by
    rw [List.map_map]
    rfl
  rw [ofFragments, ofSources, List.forIn_map, sources, List.length_map, List.isEmpty_map]
  rfl

/-- The forms to look for, each with its name in messages and its pattern. -/
def sources (declaredKeys customPatterns : List Text) (deep : Bool) : List (Text × Text) :=
  ((if deep then [declared declaredKeys] else []).filter (!·.isEmpty)).map labelled ++
    BuiltinForm.all.map (fun form => ((builtin form).label, form.letters)) ++
    ((customPatterns.map custom).filter (!·.isEmpty)).map labelled

theorem ofFragments_compose (declaredKeys customPatterns : List Text) (deep : Bool) :
    ofFragments (compose declaredKeys customPatterns deep) =
      ofSources (sources declaredKeys customPatterns deep) := by
  have forms : ((BuiltinForm.all.map builtin).filter (!·.isEmpty)).map labelled =
      BuiltinForm.all.map fun form => ((builtin form).label, form.letters) := by
    simp only [← BuiltinForm.source_eq_letters]
    rfl
  rw [ofFragments_eq_ofSources, compose, List.filter_append, List.filter_append, List.map_append,
    List.map_append, forms, sources]

end KeyPattern

end LocaleLint
