import LocaleLint.Text.Basic

/-!
# Wildcard patterns

A pattern is a text with wildcards: a question mark stands for any character, brackets for one out
of a set, a star for any text, and two stars that are a whole part of a path for any number of
parts. Main functions: `Glob.ofText` and `Glob.covers`.
-/

namespace LocaleLint

/-- The characters of a pair of brackets: one by one, or from one to another. -/
inductive GlobRange where
  | single (c : Char)
  | between (first last : Char)
deriving Repr, DecidableEq

def GlobRange.has : GlobRange → Char → Bool
  | single d, c => c == d
  | between first last, c => decide (first ≤ c) && decide (c ≤ last)

/-- One piece of a pattern. -/
inductive GlobToken where
  | literal (c : Char)
  | anyChar
  | oneOf (ranges : List GlobRange)
  | noneOf (ranges : List GlobRange)
  | anyText
  | anyParts
deriving Repr, DecidableEq

/-- What is wrong with a pattern. -/
inductive GlobFault where
  | starsTooMany
  | starsNotAPart
  | rangeInvalid
deriving Repr, DecidableEq

def GlobFault.message : GlobFault → Text
  | starsTooMany => "wildcards are either regular `*` or recursive `**`".toList
  | starsNotAPart => "recursive wildcards must form a single path component".toList
  | rangeInvalid => "invalid range pattern".toList

/-- A fault and the number of characters in front of it. -/
structure GlobError where
  fault : GlobFault
  position : Nat
deriving Repr, DecidableEq

/-- The wording of a fault with its position. -/
def GlobError.message (e : GlobError) : Text :=
  "Pattern syntax error near position ".toList ++ Text.ofNat e.position ++ ": ".toList ++
    e.fault.message

/-- A pattern is its pieces. -/
structure Glob where
  tokens : List GlobToken
deriving Repr, DecidableEq

namespace Glob

/-- Whether a text has a wildcard that makes it a pattern. -/
def isPattern (text : Text) : Bool := text.contains '*' || text.contains '?'

/-- The ranges between brackets. -/
def ranges : Text → List GlobRange
  | first :: '-' :: last :: rest => .between first last :: ranges rest
  | c :: rest => .single c :: ranges rest
  | [] => []

/-- Cuts a text at the first closing bracket behind its first character. -/
def cutBrackets? : Text → Option (Text × Text)
  | [] => none
  | c :: rest =>
    match rest.span (· ≠ ']') with
    | (_, []) => none
    | (inside, _ :: after) => some (c :: inside, after)

/-- The piece behind an opening bracket, and the rest. -/
def readBrackets? : Text → Option (GlobToken × Text)
  | '!' :: rest => (cutBrackets? rest).map fun (inside, after) => (.noneOf (ranges inside), after)
  | rest => (cutBrackets? rest).map fun (inside, after) => (.oneOf (ranges inside), after)

/-- The pieces of the rest of a text, of which `position` characters are read; `partStart` says
whether a part of the path begins here. Each piece takes a character at least, so `fuel` is the
length of the text. -/
def readTokens :
    (fuel position : Nat) → (partStart : Bool) → Text → Except GlobError (List GlobToken)
  | 0, _, _, _ => .ok []
  | _ + 1, _, _, [] => .ok []
  | fuel + 1, position, partStart, c :: rest =>
    if c = '?' then do
      return .anyChar :: (← readTokens fuel (position + 1) false rest)
    else if c = '*' then
      match rest with
      | '*' :: '*' :: _ => .error ⟨.starsTooMany, position + 2⟩
      | '*' :: rest =>
        if partStart then
          match rest with
          | [] => .ok [.anyParts]
          | '/' :: rest => do
            return .anyParts :: (← readTokens fuel (position + 3) true rest)
          | _ => .error ⟨.starsNotAPart, position + 2⟩
        else .error ⟨.starsNotAPart, position - 1⟩
      | rest => do
        return .anyText :: (← readTokens fuel (position + 1) false rest)
    else if c = '[' then
      match readBrackets? rest with
      | none => .error ⟨.rangeInvalid, position⟩
      | some (token, after) => do
        let next := position + 1 + (rest.length - after.length)
        return token :: (← readTokens fuel next false after)
    else do
      return .literal c :: (← readTokens fuel (position + 1) (c == '/') rest)

def ofText (text : Text) : Except GlobError Glob :=
  (readTokens text.length 0 true text).map Glob.mk

/-- The text that a pattern without wildcards stands for. -/
def literal? (glob : Glob) : Option Text :=
  glob.tokens.mapM fun
    | .literal c => some c
    | _ => none

/-- Whether a pattern stands for any number of parts of a path. -/
def isAnyParts (glob : Glob) : Bool := glob.tokens.contains .anyParts

/-- Whether a test holds behind one of the characters of a text at which it may be cut, or at its
end. -/
def holdsBehind (isCut : Char → Bool) (test : Text → Bool) : Text → Bool
  | [] => test []
  | c :: rest => (isCut c && test rest) || holdsBehind isCut test rest

def tokensMatch : List GlobToken → Text → Bool
  | [], text => text.isEmpty
  | .anyText :: tokens, text =>
    tokensMatch tokens text || holdsBehind (fun _ => true) (tokensMatch tokens) text
  | .anyParts :: tokens, text =>
    tokensMatch tokens text || holdsBehind (· == '/') (tokensMatch tokens) text
  | _ :: _, [] => false
  | .literal d :: tokens, c :: rest => c == d && tokensMatch tokens rest
  | .anyChar :: tokens, _ :: rest => tokensMatch tokens rest
  | .oneOf ranges :: tokens, c :: rest => ranges.any (·.has c) && tokensMatch tokens rest
  | .noneOf ranges :: tokens, c :: rest => !ranges.any (·.has c) && tokensMatch tokens rest

/-- Whether a pattern matches a whole text. A star also matches slashes. -/
def covers (glob : Glob) (text : Text) : Bool := tokensMatch glob.tokens text

end Glob

end LocaleLint
