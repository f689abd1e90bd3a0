/-!
# Text

Everything that is read or reported is a list of Unicode characters. This module holds the
vocabulary of the other modules: lengths in UTF-8, white space, splitting and joining, and the
decimal numerals.
-/

namespace LocaleLint

-- Powers are those of the core library, whatever else is imported.
attribute [local instance (high)] instPowNat

/-- A text is its characters, in order. -/
abbrev Text := List Char

namespace Text

/-- The number of bytes of a text in UTF-8. -/
def utf8Length : Text → Nat
  | [] => 0
  | c :: rest => c.utf8Size + utf8Length rest

@[simp] theorem utf8Length_append (s t : Text) :
    utf8Length (s ++ t) = utf8Length s + utf8Length t := by
  induction s with
  | nil => simp [utf8Length]
  | cons c rest ih => simp [utf8Length, ih, Nat.add_assoc]

/-- The two parts of a text around a byte offset, if the offset is in the text and no character
lies across it. -/
def splitAtByte : Nat → Text → Option (Text × Text)
  | 0, s => some ([], s)
  | _ + 1, [] => none
  | n + 1, c :: rest =>
    if c.utf8Size ≤ n + 1 then
      (splitAtByte (n + 1 - c.utf8Size) rest).map fun (before, after) => (c :: before, after)
    else none

/-- What is left of a text behind a byte offset, if the offset is in the text and no character lies
across it. -/
def dropBytes? (offset : Nat) (s : Text) : Option Text := (splitAtByte offset s).map (·.2)

theorem le_of_dropBytes? {offset : Nat} {s rest : Text} (cut : dropBytes? offset s = some rest) :
    offset ≤ utf8Length s := by
  induction s generalizing offset rest with
  | nil =>
    cases offset with
    | zero => exact Nat.le_refl 0
    | succ n => cases cut
  | cons c s ih =>
    cases offset with
    | zero => exact Nat.zero_le _
    | succ n =>
      rw [dropBytes?, splitAtByte] at cut
      split at cut
      · rw [Option.map_map] at cut
        have inner : n + 1 - c.utf8Size ≤ utf8Length s := ih cut
        rw [utf8Length]
        omega
      · cases cut

/-- The part of a text between two byte offsets, if both are boundaries and in order. -/
def slice (start stop : Nat) (s : Text) : Option Text :=
  if start ≤ stop then do
    let (_, after) ← splitAtByte start s
    let (part, _) ← splitAtByte (stop - start) after
    return part
  else none

/-- The characters with the Unicode property White_Space. -/
def isWhite (c : Char) : Bool :=
  let n := c.toNat
  (9 ≤ n && n ≤ 13) || n == 0x20 || n == 0x85 || n == 0xA0 || n == 0x1680 ||
    (0x2000 ≤ n && n ≤ 0x200A) || n == 0x2028 || n == 0x2029 || n == 0x202F || n == 0x205F ||
    n == 0x3000

/-- A text without the white space in front of it. -/
def trimStart (s : Text) : Text := s.dropWhile isWhite

/-- A text without the white space after it. -/
def trimEnd (s : Text) : Text := (s.reverse.dropWhile isWhite).reverse

/-- A text without the white space around it. -/
def trim (s : Text) : Text := trimEnd (trimStart s)

/-- White space only, or nothing. -/
def isBlank (s : Text) : Bool := s.all isWhite

/-- The parts of a text between the separators; there is always one part more than separators. -/
def splitOn (separator : Char) : Text → List Text
  | [] => [[]]
  | c :: rest =>
    if c = separator then [] :: splitOn separator rest
    else match splitOn separator rest with
      | [] => [[c]]
      | part :: parts => (c :: part) :: parts

/-- The texts one after another, with a separator between neighbours. -/
def joinWith (separator : Text) : List Text → Text
  | [] => []
  | [s] => s
  | s :: rest => s ++ separator ++ joinWith separator rest

/-- What is left of a text after a beginning that it has. -/
def dropPrefix? : Text → Text → Option Text
  | [], s => some s
  | _ :: _, [] => none
  | p :: ps, c :: rest => if p = c then dropPrefix? ps rest else none

/-- Whether a text begins with another one. -/
def startsWith (start s : Text) : Bool := (dropPrefix? start s).isSome

/-- What is left of a text before an ending that it has. -/
def dropSuffix? (ending s : Text) : Option Text :=
  (dropPrefix? ending.reverse s.reverse).map List.reverse

/-- Whether a text occurs in another one. -/
def occursIn (word : Text) : Text → Bool
  | [] => word.isEmpty
  | c :: rest => startsWith word (c :: rest) || occursIn word rest

/-- The byte offset of the first place where a word stands in a text. -/
def offsetOf? (word : Text) : Text → Option Nat
  | [] => if word.isEmpty then some 0 else none
  | c :: rest =>
    if startsWith word (c :: rest) then some 0
    else (offsetOf? word rest).map (c.utf8Size + ·)

/-- The items of a list that is written with commas, without the white space around them; blank
items do not count. -/
def listItems (s : Text) : List Text := ((splitOn ',' s).map trim).filter (!·.isEmpty)

/-- The decimal digit of a number below ten. -/
def digit (n : Nat) : Char := Char.ofNat (48 + n % 10)

/-- The decimal digits of a number, least significant first, `fuel` of them at most. -/
def digitsRev : Nat → Nat → Text
  | 0, _ => []
  | fuel + 1, n => digit n :: if n < 10 then [] else digitsRev fuel (n / 10)

/-- The decimal numeral of a number. -/
def ofNat (n : Nat) : Text := (digitsRev (n + 1) n).reverse

/-- The hexadecimal digit of a number below sixteen. -/
def hexDigit (n : Nat) : Char := if n < 10 then Char.ofNat (48 + n) else Char.ofNat (87 + n)

/-- The hexadecimal digits of a number, least significant first, `fuel` of them at most. -/
def hexDigitsRev : (fuel n : Nat) → Text
  | 0, _ => []
  | fuel + 1, n => hexDigit (n % 16) :: if n < 16 then [] else hexDigitsRev fuel (n / 16)

/-- The hexadecimal numeral of a number. -/
def hexOfNat (n : Nat) : Text := (hexDigitsRev (n + 1) n).reverse

def digitValue? (c : Char) : Option Nat :=
  if '0' ≤ c ∧ c ≤ '9' then some (c.toNat - 48) else none

/-- The value of a text of decimal digits in front of which `value` has been read. -/
def readDigits (value : Nat) : Text → Option Nat
  | [] => some value
  | c :: rest => (digitValue? c).bind fun d => readDigits (10 * value + d) rest

/-- The number below 2 ^ 64 that a text of digits stands for; one plus sign may lead. -/
def toIndex? (s : Text) : Option Nat :=
  let digits := match s with
    | '+' :: rest => rest
    | _ => s
  if digits.isEmpty then none
  else (readDigits 0 digits).filter (· < 2 ^ (64 : Nat))

/-- The order of texts by their UTF-8 bytes, which is the order by their characters. -/
def le : Text → Text → Bool
  | [], _ => true
  | _ :: _, [] => false
  | c :: s, d :: t => c < d || (c == d && le s t)

end Text

end LocaleLint
