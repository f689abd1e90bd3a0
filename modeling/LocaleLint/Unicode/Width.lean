import LocaleLint.Unicode.Break
import LocaleLint.Unicode.Property

/-!
# Widths of characters

How many columns of a terminal a character takes: none for what is drawn over or next to its
neighbour, two for the wide characters of East Asian scripts and for pictures, and one for all
others but two signs of Khmer that are written as several letters.
-/

namespace LocaleLint.Unicode.Width

open CharClass

/-- The characters with the East Asian width wide or full width, as of Unicode 16. -/
def eastAsianWide : CharClass :=
  ofRuns
    ("4352 96 4538 2 13 2 190 4 3 1 2 1 521 2 21 2 26 8 16 12 43 1 10 6 3 1 13 1 8 2 17 2 5 " ++
     "2 8 1 5 1 21 1 7 2 1 1 4 1 2 1 7 1 4 2 28 1 35 1 1 1 4 3 1 1 61 3 24 1 14 1 859 2 51 1 " ++
     "4 1 810 26 1 89 12 214 26 79 2 86 2 103 5 43 1 94 1 86 9 48 1 40 8 29245 3 55 1177 29 " ++
     "643 11172 8540 512 784 10 22 35 1 19 1 4 149 96 127 7 28665 5 11 2 14 6136 8 1238 41 " ++
     "10 8935 4 1 7 1 2 1 291 15 1 29 3 2 1 14 4 8 396 8196 87 9 23 7309 1 202 1 190 1 2 10 " ++
     "101 3 13 44 4 9 7 2 14 6 154 33 12 9 1 70 1 22 12 43 4 5 12 17 3 1 3 71 1 1 1 187 2 63 " ++
     "13 4 1 24 18 1 26 2 13 1 86 85 48 70 6 1 3 3 2 3 4 4 11 2 7 9 227 12 4 1 283 47 1 10 1 " ++
     "185 112 13 3 10 5 56 7 15 2 11 6 9 1287 65534 2 65534")

/-- Parts of words that take no room although they are not marks: vowels and final consonants of
Hangul, signs in front of numbers, and vowel signs. -/
def joining : CharClass :=
  unions [.range 0x1160 0x11FF, .range 0xD7B0 0xD7C6, .range 0xD7CB 0xD7FB, .range 0x070F 0x070F,
    .range 0x0605 0x0605, .range 0x0890 0x0891, .range 0x08E2 0x08E2, .range 0xA8FA 0xA8FA,
    .range 0x0CC0 0x0CC0, .range 0x0CC7 0x0CC8, .range 0x0CCA 0x0CCB, .range 0x1B3B 0x1B3B,
    .range 0x1B3D 0x1B3D, .range 0x1B43 0x1B43,
    .difference Break.graphemePrepend Property.prependedConcatenationMark]

/-- The characters that take no room. The filler of an initial consonant stands for the consonant
and takes room, and so does the sign that joins consonants of Tifinagh. -/
def zeroWidth : CharClass :=
  .difference
    (unions [Property.defaultIgnorableCodePoint, Property.graphemeExtend, joining])
    (unions [.range 0x115F 0x115F, .range 0x2D7F 0x2D7F])

/-- How many columns a character takes on its own. -/
def ofChar (c : Char) : Nat :=
  if c.toNat ≤ 0xA0 then 1
  else if c = '\u17a4' then 2
  else if c = '\u17d8' then 3
  else if zeroWidth.has c then 0
  else if eastAsianWide.has c then 2
  else 1

end LocaleLint.Unicode.Width
