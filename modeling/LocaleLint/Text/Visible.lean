import LocaleLint.Text.Basic
import LocaleLint.Unicode.Property

/-!
# Visible text

A text in quotes in which every character shows: those that would not be visible, or that would
change the character in front of them, are written by their numbers.
-/

namespace LocaleLint.Text

open Unicode

/-- The characters without an appearance of their own. -/
def unseen : CharClass :=
  CharClass.unions [GeneralCategory.other, GeneralCategory.separator, Property.graphemeExtend]

/-- A character as it is written in a visible text. -/
def showChar (c : Char) : Text :=
  match c with
  | '\x00' => ['\\', '0']
  | '\t' => ['\\', 't']
  | '\r' => ['\\', 'r']
  | '\n' => ['\\', 'n']
  | '\\' => ['\\', '\\']
  | '"' => ['\\', '"']
  | ' ' => [' ']
  | c =>
    if unseen.has c then ['\\', 'u', '\x7b'] ++ hexOfNat c.toNat ++ ['\x7d'] else [c]

def visible (s : Text) : Text := '"' :: s.flatMap showChar ++ ['"']

end LocaleLint.Text
