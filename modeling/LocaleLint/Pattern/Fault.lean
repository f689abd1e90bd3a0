import LocaleLint.Text.Basic

/-!
# Faults of patterns

Why a text is not a pattern, and how that is said.
-/

namespace LocaleLint.Pattern

/-- Why a text is not a pattern. -/
inductive Fault where
  | classEscape
  | classRangeOrder
  | classRangeBoundary
  | classUnclosed
  | decimalInvalid
  | hexEmpty
  | hexNotScalar
  | hexDigit
  | escapeAtEnd
  | escapeUnknown
  | flagNegationDangling
  | flagNegationRepeated
  | flagDuplicate
  | flagAtEnd
  | flagUnknown
  | groupNameDuplicate
  | groupNameEmpty
  | groupNameCharacter
  | groupNameUnclosed
  | groupUnclosed
  | groupUnopened
  | nestedTooDeep
  | countOrder
  | countEmpty
  | countUnclosed
  | repetitionMissing
  | wordBoundaryUnclosed
  | wordBoundaryUnknown
  | wordBoundaryAtEnd
  | propertyMalformed
  | backreference
  | lookAround
  | unicodeNotAllowed
  | invalidUtf8
  | propertyNotFound
  | propertyValueNotFound
deriving Repr, DecidableEq

/-- How deep a pattern may be nested. -/
def nestingLimit : Nat := 250

/-- What is said about a fault. -/
def Fault.message : Fault → Text
  | classEscape => "invalid escape sequence found in character class".toList
  | classRangeOrder =>
    "invalid character class range, the start must be <= the end".toList
  | classRangeBoundary => "invalid range boundary, must be a literal".toList
  | classUnclosed => "unclosed character class".toList
  | decimalInvalid => "decimal literal invalid".toList
  | hexEmpty => "hexadecimal literal empty".toList
  | hexNotScalar => "hexadecimal literal is not a Unicode scalar value".toList
  | hexDigit => "invalid hexadecimal digit".toList
  | escapeAtEnd => "incomplete escape sequence, reached end of pattern prematurely".toList
  | escapeUnknown => "unrecognized escape sequence".toList
  | flagNegationDangling => "dangling flag negation operator".toList
  | flagNegationRepeated => "flag negation operator repeated".toList
  | flagDuplicate => "duplicate flag".toList
  | flagAtEnd => "expected flag but got end of regex".toList
  | flagUnknown => "unrecognized flag".toList
  | groupNameDuplicate => "duplicate capture group name".toList
  | groupNameEmpty => "empty capture group name".toList
  | groupNameCharacter => "invalid capture group character".toList
  | groupNameUnclosed => "unclosed capture group name".toList
  | groupUnclosed => "unclosed group".toList
  | groupUnopened => "unopened group".toList
  | nestedTooDeep =>
    "exceed the maximum number of nested parentheses/brackets (".toList ++
      Text.ofNat nestingLimit ++ [')']
  | countOrder =>
    "invalid repetition count range, the start must be <= the end".toList
  | countEmpty => "repetition quantifier expects a valid decimal".toList
  | countUnclosed => "unclosed counted repetition".toList
  | repetitionMissing => "repetition operator missing expression".toList
  | wordBoundaryUnclosed =>
    "special word boundary assertion is either unclosed or contains an invalid character".toList
  | wordBoundaryUnknown =>
    ("unrecognized special word boundary assertion, valid choices are: " ++
      "start, end, start-half or end-half").toList
  | wordBoundaryAtEnd =>
    ("found either the beginning of a special word boundary or a bounded repetition on a " ++
      "\\b with an opening brace, but no closing brace").toList
  | propertyMalformed => "invalid Unicode character class".toList
  | backreference => "backreferences are not supported".toList
  | lookAround => "look-around, including look-ahead and look-behind, is not supported".toList
  | unicodeNotAllowed => "Unicode not allowed here".toList
  | invalidUtf8 => "pattern can match invalid UTF-8".toList
  | propertyNotFound => "Unicode property not found".toList
  | propertyValueNotFound => "Unicode property value not found".toList

end LocaleLint.Pattern
