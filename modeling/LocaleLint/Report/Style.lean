import LocaleLint.Text.Basic

/-!
# Styled lines

Lines for a terminal, made of pieces that may have a colour. A colour is switched on and off by
escape sequences; without colours only the text is left.
-/

namespace LocaleLint

inductive Style where
  | boldRed
  | boldYellow
  | boldGreen
  | bold
  | dimCyan
  | red
  | yellow
  | green
  | blue
deriving Repr, DecidableEq

/-- The numbers that switch a style on. -/
def Style.codes : Style → Text
  | boldRed => "1;31".toList
  | boldYellow => "1;33".toList
  | boldGreen => "1;32".toList
  | bold => "1".toList
  | dimCyan => "2;36".toList
  | red => "31".toList
  | yellow => "33".toList
  | green => "32".toList
  | blue => "34".toList

/-- A piece of a line: a text, and its style if it has one. -/
structure StyledText where
  style : Option Style
  text : Text
deriving Repr, DecidableEq

namespace StyledText

/-- The character that starts an escape sequence. -/
def escape : Char := '\x1b'

/-- A piece without style. -/
def plain (text : Text) : StyledText := ⟨none, text⟩

/-- A piece with a style. -/
def styled (style : Style) (text : Text) : StyledText := ⟨some style, text⟩

/-- The escape sequence that switches a style on. -/
def switchOn (style : Style) : Text := escape :: '[' :: style.codes ++ ['m']

/-- The escape sequence that switches all styles off. -/
def switchOff : Text := [escape, '[', '0', 'm']

/-- What is written for a piece. -/
def render (colored : Bool) (span : StyledText) : Text :=
  match span.style with
  | none => span.text
  | some style => if colored then switchOn style ++ span.text ++ switchOff else span.text

end StyledText

/-- A line is its pieces. -/
abbrev StyledLine := List StyledText

namespace StyledLine

def render (colored : Bool) (line : StyledLine) : Text :=
  line.flatMap (StyledText.render colored) ++ ['\n']

/-- What is written for several lines. -/
def renderAll (colored : Bool) (lines : List StyledLine) : Text :=
  lines.flatMap (render colored)

end StyledLine

end LocaleLint
