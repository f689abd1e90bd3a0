import LocaleLint.Text.Basic
import LocaleLint.Unicode.Width

/-!
# Widths of texts

How many columns of a terminal a text takes. A sequence of characters that is drawn as one picture
takes two columns, and a line feed takes one with the carriage return in front of it. The text is
looked at from its end, because what a character takes depends on what follows it.
-/

namespace LocaleLint.Text

open Unicode

/-- What follows a character, as far as its width depends on it. -/
inductive Follower where
  | other
  | lineFeed
  /-- The sign that asks for a picture. -/
  | selector
  /-- A picture. -/
  | picture
  /-- A tone for the picture in front of it. -/
  | tone
  /-- The sign that joins the picture in front of it with the one behind it. -/
  | joiner
  /-- The sign that asks for a picture, in front of the one that joins pictures. -/
  | joinedSelector
deriving Repr, DecidableEq

/-- The follower that a character is, and the width that it takes by itself. -/
def plainStep (c : Char) : Nat × Follower :=
  let follower : Follower :=
    if Property.emojiModifier.has c then .tone
    else if Property.regionalIndicator.has c then .other
    else if Property.emojiPresentation.has c then .picture
    else .other
  (Width.ofChar c, follower)

/-- How many columns a character takes in front of what follows it, and what it is as a follower. -/
def widthStep (c : Char) (next : Follower) : Nat × Follower :=
  if next = .selector ∧ Property.emoji.has c then (2, .picture)
  else if next = .joinedSelector ∧ Property.emoji.has c then (0, .picture)
  else if c = '\n' then (1, .lineFeed)
  else if c = '\r' ∧ next = .lineFeed then (0, .other)
  else if c.toNat ≤ 0xA0 then (1, .other)
  else if c = '\ufe0f' then (0, if next = .joiner then .joinedSelector else .selector)
  else if c = '\u200d' ∧ (next = .picture ∨ next = .tone) then (0, .joiner)
  else if next = .tone ∧ Property.emojiModifierBase.has c then (0, .picture)
  else if next = .joiner ∧ Property.emojiPresentation.has c ∧
      !Property.regionalIndicator.has c then
    (0, (plainStep c).2)
  else plainStep c

/-- How many columns a text takes, and what it starts with as a follower. -/
def widthFrom : Text → Nat × Follower
  | [] => (0, .other)
  | c :: rest =>
    let (width, next) := widthFrom rest
    let (own, follower) := widthStep c next
    (own + width, follower)

/-- How many columns of a terminal a text takes. -/
def displayWidth (s : Text) : Nat := (widthFrom s).1

end LocaleLint.Text
