import LocaleLint.Unicode.CharClass

/-!
# Script extensions

The characters that texts of a script use, as of Unicode 16. A character may be in several of
these classes.
-/

namespace LocaleLint.Unicode.ScriptExtension

open CharClass

/-- Characters used with the script Adlam. -/
def adlam : CharClass :=
  ofRuns
    "1567 1 32 1 123583 76 4 10 4 2"

/-- Characters used with the script Ahom. -/
def ahom : CharClass :=
  ofRuns
    "71424 27 2 15 4 23"

/-- Characters used with the script Anatolian Hieroglyphs. -/
def anatolianHieroglyphs : CharClass :=
  ofRuns
    "82944 583"

/-- Characters used with the script Arabic. -/
def arabic : CharClass :=
  ofRuns
    ("1536 5 1 215 1 34 80 48 240 31 1 2 5 75 1 29 62032 115 16 445 2 54 7 1 32 16 112 5 1 135 " ++
     "995 28 2916 31 67 3 55 4 57088 4 1 27 1 2 1 1 2 1 1 10 1 4 1 1 1 1 6 1 4 1 1 1 1 1 1 3 1 " ++
     "2 1 1 2 1 1 1 1 1 1 1 1 1 1 2 1 1 2 4 1 7 1 4 1 4 1 1 1 10 1 17 5 3 1 5 1 17 52 2")

/-- Characters used with the script Armenian. -/
def armenian : CharClass :=
  ofRuns
    "1329 38 2 50 2 3 62851 5"

/-- Characters used with the script Avestan. -/
def avestan : CharClass :=
  ofRuns
    "68352 54 3 7"

/-- Characters used with the script Balinese. -/
def balinese : CharClass :=
  ofRuns
    "6912 77 1 50"

/-- Characters used with the script Bamum. -/
def bamum : CharClass :=
  ofRuns
    "42656 88 49416 569"

/-- Characters used with the script Bassa Vah. -/
def bassaVah : CharClass :=
  ofRuns
    "92880 30 2 6"

/-- Characters used with the script Batak. -/
def batak : CharClass :=
  ofRuns
    "7104 52 8 4"

/-- Characters used with the script Bengali. -/
def bengali : CharClass :=
  ofRuns
    ("2385 2 17 2 26 4 1 8 2 2 2 22 1 7 1 1 3 4 2 9 2 2 2 4 8 1 4 2 1 5 2 25 4817 1 1 1 2 2 1 1 " ++
     "8 1 8 1 2 1 4 1 2 3 35833 1")

/-- Characters used with the script Bhaiksuki. -/
def bhaiksuki : CharClass :=
  ofRuns
    "72704 9 1 45 1 14 10 29"

/-- Characters used with the script Bopomofo. -/
def bopomofo : CharClass :=
  ofRuns
    "746 2 11541 3 4 10 1 13 10 4 2 1 6 1 195 1 9 43 112 32 52357 2 282 5"

/-- Characters used with the script Brahmi. -/
def brahmi : CharClass :=
  ofRuns
    "69632 78 4 36 9 1"

/-- Characters used with the script Braille. -/
def braille : CharClass :=
  ofRuns
    "10240 256"

/-- Characters used with the script Buginese. -/
def buginese : CharClass :=
  ofRuns
    "6656 28 2 2 36783 1"

/-- Characters used with the script Buhid. -/
def buhid : CharClass :=
  ofRuns
    "5941 2 9 20"

/-- Characters used with the script Canadian Aboriginal. -/
def canadianAboriginal : CharClass :=
  ofRuns
    "5120 640 560 70 65978 16"

/-- Characters used with the script Carian. -/
def carian : CharClass :=
  ofRuns
    "66208 49"

/-- Characters used with the script Caucasian Albanian. -/
def caucasianAlbanian : CharClass :=
  ofRuns
    "66864 52 11 1"

/-- Characters used with the script Chakma. -/
def chakma : CharClass :=
  ofRuns
    "2534 10 1616 10 65718 53 1 18"

/-- Characters used with the script Cham. -/
def cham : CharClass :=
  ofRuns
    "43520 55 9 14 2 10 2 4"

/-- Characters used with the script Cherokee. -/
def cherokee : CharClass :=
  ofRuns
    "5024 86 2 6 38770 80"

/-- Characters used with the script Chorasmian. -/
def chorasmian : CharClass :=
  ofRuns
    "69552 28"

/-- Characters used with the script Common. -/
def common : CharClass :=
  (ofRanges [(0, 64), (91, 96), (123, 127)]).union (ofRuns
    ("128 42 1 15 1 5 23 1 31 1 449 39 5 5 2 20 116 1 9 1 6 1 1 1 637 1 215 1 516 1 1372 1 405 " ++
     "4 1810 3 2322 12 2 33 1 53 1 11 3 11 1 15 17 33 63 38 1 3 2 6 1 27 1 17 41 3 4 666 22 11 " ++
     "21 928 256 628 2 32 1 105 512 67 1 26 402 17 3 1 13 1 13 1 21 1 429 2 9 1 88 24 31 1 49 " ++
     "15 12 4 161 10 5 96 31 1 6592 64 22792 26 102 3 976 1 14 2 21156 10 22 21 2 12 1 19 1 4 " ++
     "147 1 1 32 26 6 26 6 127 7 1 7 10 5 402 13 51 45 51715 250 6 436 156 116 60 246 10 39 2 " ++
     "62 3 17 8 2 7 30 4 61 213 20 12 20 12 87 27 7 135 85 1 71 1 2 2 1 2 2 2 4 1 12 1 1 1 7 1 " ++
     "65 1 4 2 8 1 7 1 28 1 4 1 5 1 1 3 7 1 340 2 292 2 50 5233 68 76 61 706 44 4 100 12 15 2 " ++
     "15 1 15 1 37 10 174 56 26 1 2 13 44 4 9 23 6 154 984 4 17 3 13 3 119 4 95 6 12 4 1 15 12 " ++
     "4 56 8 10 6 40 8 30 2 12 4 2 62 340 12 14 2 13 3 10 5 56 7 15 2 11 6 9 7 147 1 102 787463 " ++
     "1 30 96"))

/-- Characters used with the script Coptic. -/
def coptic : CharClass :=
  ofRuns
    "994 14 10384 116 5 7 54752 28"

/-- Characters used with the script Cuneiform. -/
def cuneiform : CharClass :=
  ofRuns
    "73728 922 102 111 1 5 11 196"

/-- Characters used with the script Cypriot. -/
def cypriot : CharClass :=
  ofRuns
    "65792 3 4 45 3 9 1728 6 2 1 1 44 1 2 3 1 2 1"

/-- Characters used with the script Cypro Minoan. -/
def cyproMinoan : CharClass :=
  ofRuns
    "65792 2 11918 99"

/-- Characters used with the script Cyrillic. -/
def cyrillic : CharClass :=
  ofRuns
    "1024 304 5968 11 160 1 76 1 127 1 4071 32 67 1 30716 96 22414 2 57856 62 33 1"

/-- Characters used with the script Deseret. -/
def deseret : CharClass :=
  ofRuns
    "66560 80"

/-- Characters used with the script Devanagari. -/
def devanagari : CharClass :=
  ofRuns
    "2304 83 2 43 4944 39 1 2 1014 1 34623 10 166 32 29184 10"

/-- Characters used with the script Dives Akuru. -/
def divesAkuru : CharClass :=
  ofRuns
    "71936 7 2 1 2 8 1 2 1 30 1 2 2 12 9 10"

/-- Characters used with the script Dogra. -/
def dogra : CharClass :=
  ofRuns
    "2404 12 40640 10 28614 60"

/-- Characters used with the script Duployan. -/
def duployan : CharClass :=
  ofRuns
    "113664 107 5 13 3 9 7 10 2 8"

/-- Characters used with the script Egyptian Hieroglyphs. -/
def egyptianHieroglyphs : CharClass :=
  ofRuns
    "77824 1110 10 3995"

/-- Characters used with the script Elbasan. -/
def elbasan : CharClass :=
  ofRuns
    "66816 40"

/-- Characters used with the script Elymaic. -/
def elymaic : CharClass :=
  ofRuns
    "69600 23"

/-- Characters used with the script Ethiopic. -/
def ethiopic : CharClass :=
  ofRuns
    ("4608 73 1 4 2 7 1 1 1 4 2 41 1 4 2 33 1 4 2 7 1 1 1 4 2 15 1 57 1 4 2 67 2 32 3 26 6630 " ++
     "23 9 7 1 7 1 7 1 7 1 7 1 7 1 7 1 7 32034 6 2 6 2 6 9 7 1 7 81073 7 1 4 1 2 1 15")

/-- Characters used with the script Garay. -/
def garay : CharClass :=
  ofRuns
    "68928 38 3 29 8 2"

/-- Characters used with the script Georgian. -/
def georgian : CharClass :=
  ofRuns
    "4256 38 1 1 5 1 2 48 2960 43 2 3 4160 38 1 1 5 1"

/-- Characters used with the script Glagolitic. -/
def glagolitic : CharClass :=
  ofRuns
    "1156 1 2 1 10104 96 483 1 30763 1 80272 7 1 17 2 7 1 2 1 5"

/-- Characters used with the script Gothic. -/
def gothic : CharClass :=
  ofRuns
    "66352 27"

/-- Characters used with the script Grantha. -/
def grantha : CharClass :=
  ofRuns
    ("2385 2 17 2 640 14 4316 1 1 2 30 3 3 2 1014 1 61967 4 1 8 2 2 2 22 1 7 1 2 1 5 1 10 2 2 2 " ++
     "3 2 1 6 1 5 7 2 7 3 5 3163 2 1 1")

/-- Characters used with the script Greek. -/
def greek : CharClass :=
  ofRuns
    ("834 1 2 1 42 4 1 3 2 4 1 1 4 1 1 1 1 3 1 1 1 20 1 63 14 16 6438 5 50 5 4 5 84 3 318 22 2 " ++
     "6 2 38 2 6 2 8 1 1 1 1 1 1 1 31 2 53 1 15 1 14 2 6 1 19 2 3 1 9 295 1 35390 1 21978 79 17 " ++
     "1 53343 70")

/-- Characters used with the script Gujarati. -/
def gujarati : CharClass :=
  ofRuns
    "2385 2 17 2 283 3 1 9 1 3 1 22 1 7 1 2 1 5 2 10 1 3 1 3 2 1 15 4 2 12 7 7 40240 10"

/-- Characters used with the script Gunjala Gondi. -/
def gunjalaGondi : CharClass :=
  ofRuns
    "2404 2 70650 6 1 2 1 37 1 2 1 6 7 10"

/-- Characters used with the script Gurmukhi. -/
def gurmukhi : CharClass :=
  ofRuns
    "2385 2 17 2 155 3 1 6 4 2 2 22 1 7 1 2 1 2 1 2 2 1 1 5 4 2 2 3 3 1 7 4 1 1 7 17 40377 10"

/-- Characters used with the script Gurung Khema. -/
def gurungKhema : CharClass :=
  ofRuns
    "90368 58"

/-- Characters used with the script Han. -/
def han : CharClass :=
  ofRuns
    ("11904 26 1 89 12 214 43 3 1 13 1 13 1 13 2 1 6 9 187 1 148 16 32 36 60 40 56 49 15 12 51 " ++
     "1 88 25 10 5 96 31 1 6592 64 20992 1792 8 20984 366 2 106 875 2 282 5 28796 2 12 2 25454 " ++
     "18 7902 2 3502 42720 32 4154 6 222 2 5762 14 7473 15 622 2466 542 1506 4939 5 4192")

/-- Characters used with the script Hangul. -/
def hangul : CharClass :=
  ofRuns
    ("4352 256 7681 3 4 10 1 13 14 3 6 1 195 1 53 94 113 31 65 31 30433 29 643 11172 12 23 4 49 " ++
     "9801 2 282 5 58 31 3 6 2 6 2 6 2 3")

/-- Characters used with the script Hanifi Rohingya. -/
def hanifiRohingya : CharClass :=
  ofRuns
    "1548 1 14 1 3 1 32 1 147 1 67115 40 8 10"

/-- Characters used with the script Hanunoo. -/
def hanunoo : CharClass :=
  ofRuns
    "5920 23"

/-- Characters used with the script Hatran. -/
def hatran : CharClass :=
  ofRuns
    "67808 19 1 2 5 5"

/-- Characters used with the script Hebrew. -/
def hebrew : CharClass :=
  ofRuns
    "1425 55 8 27 4 6 62760 26 1 5 1 1 1 2 1 2 1 10"

/-- Characters used with the script Hiragana. -/
def hiragana : CharClass :=
  ofRuns
    ("12289 3 4 10 1 13 16 6 1 1 4 2 3 86 2 8 90 2 52552 2 282 5 10 1 45 2 45153 287 18 1 29 3 " ++
     "16557 1")

/-- Characters used with the script Imperial Aramaic. -/
def imperialAramaic : CharClass :=
  ofRuns
    "67648 22 1 9"

/-- Characters used with the script Inherited. -/
def inherited : CharClass :=
  ofRuns
    ("768 66 1 2 1 29 1520 2 4443 31 755 54 1 1 1 5 524 2 194 32 56592 16 16 14 975 1 52482 46 " ++
     "2 23 544 3 17 8 2 7 30 4 798546 240")

/-- Characters used with the script Inscriptional Pahlavi. -/
def inscriptionalPahlavi : CharClass :=
  ofRuns
    "68448 19 5 8"

/-- Characters used with the script Inscriptional Parthian. -/
def inscriptionalParthian : CharClass :=
  ofRuns
    "68416 22 2 8"

/-- Characters used with the script Javanese. -/
def javanese : CharClass :=
  ofRuns
    "43392 78 1 11 4 2"

/-- Characters used with the script Kaithi. -/
def kaithi : CharClass :=
  ofRuns
    "2406 10 40640 10 26694 67 10 1"

/-- Characters used with the script Kannada. -/
def kannada : CharClass :=
  ofRuns
    ("2385 2 17 2 794 13 1 3 1 23 1 10 1 5 2 9 1 3 1 4 7 2 6 2 1 4 2 10 1 3 4060 1 1 1 7 1 23 1 " ++
     "1 1 35643 6")

/-- Characters used with the script Katakana. -/
def katakana : CharClass :=
  ofRuns
    ("12289 3 4 10 1 13 16 6 1 1 4 2 91 4 3 96 240 16 208 47 1 88 51949 2 282 63 45136 4 1 7 1 " ++
     "2 1 1 287 3 50 1 14 4")

/-- Characters used with the script Kawi. -/
def kawi : CharClass :=
  ofRuns
    "73472 17 1 41 3 29"

/-- Characters used with the script Kayah Li. -/
def kayahLi : CharClass :=
  ofRuns
    "43264 48"

/-- Characters used with the script Kharoshthi. -/
def kharoshthi : CharClass :=
  ofRuns
    "68096 4 1 2 5 8 1 3 1 29 2 3 4 10 7 9"

/-- Characters used with the script Khitan Small Script. -/
def khitanSmallScript : CharClass :=
  ofRuns
    "94180 1 6939 470 41 1"

/-- Characters used with the script Khmer. -/
def khmer : CharClass :=
  ofRuns
    "6016 94 2 10 6 10 486 32"

/-- Characters used with the script Khojki. -/
def khojki : CharClass :=
  ofRuns
    "2790 10 40256 10 27078 18 1 47"

/-- Characters used with the script Khudawadi. -/
def khudawadi : CharClass :=
  ofRuns
    "2404 2 40650 10 27254 59 5 10"

/-- Characters used with the script Kirat Rai. -/
def kiratRai : CharClass :=
  ofRuns
    "93504 58"

/-- Characters used with the script Lao. -/
def lao : CharClass :=
  ofRuns
    "3713 2 1 1 1 5 1 24 1 1 1 23 2 5 1 1 1 7 1 10 2 4"

/-- Characters used with the script Latin. -/
def latin : CharClass :=
  (ofRanges [(65, 90), (97, 122)]).union (ofRuns
    ("170 1 15 1 5 23 1 31 1 449 39 5 126 13 277 2 1226 2 1960 1 3076 38 6 49 5 4 5 13 1 70 65 " ++
     "256 303 1 65 1 13 1 16 13 83 1 57 2 6 1 27 1 17 41 2775 32 31360 8 26 102 3 67 2 2 1 1 1 " ++
     "8 21 14 302 1 513 43 1 9 1 4 20374 7 1050 26 6 26 2085 6 1 42 1 9 55109 31 6 6"))

/-- Characters used with the script Lepcha. -/
def lepcha : CharClass :=
  ofRuns
    "7168 56 3 15 3 3"

/-- Characters used with the script Limbu. -/
def limbu : CharClass :=
  ofRuns
    "2405 1 3994 31 1 12 4 12 4 1 3 12"

/-- Characters used with the script Linear A. -/
def linearA : CharClass :=
  ofRuns
    "65799 45 1228 311 9 22 10 8"

/-- Characters used with the script Linear B. -/
def linearB : CharClass :=
  ofRuns
    "65536 12 1 26 1 19 1 2 1 15 2 14 34 123 5 3 4 45 3 9"

/-- Characters used with the script Lisu. -/
def lisu : CharClass :=
  ofRuns
    "42192 48 31408 1"

/-- Characters used with the script Lycian. -/
def lycian : CharClass :=
  ofRuns
    "66176 29"

/-- Characters used with the script Lydian. -/
def lydian : CharClass :=
  ofRuns
    "67872 26 5 1"

/-- Characters used with the script Mahajani. -/
def mahajani : CharClass :=
  ofRuns
    "2404 12 40640 10 26902 39"

/-- Characters used with the script Makasar. -/
def makasar : CharClass :=
  ofRuns
    "73440 25"

/-- Characters used with the script Malayalam. -/
def malayalam : CharClass :=
  ofRuns
    "2385 2 17 2 922 13 1 3 1 51 1 3 1 6 4 16 2 26 3930 1 35669 3"

/-- Characters used with the script Mandaic. -/
def mandaic : CharClass :=
  ofRuns
    "1600 1 511 28 2 1"

/-- Characters used with the script Manichaean. -/
def manichaean : CharClass :=
  ofRuns
    "1600 1 66687 39 4 12"

/-- Characters used with the script Marchen. -/
def marchen : CharClass :=
  ofRuns
    "72816 32 2 22 1 14"

/-- Characters used with the script Masaram Gondi. -/
def masaramGondi : CharClass :=
  ofRuns
    "2404 2 70554 7 1 2 1 44 3 1 1 2 1 9 8 10"

/-- Characters used with the script Medefaidrin. -/
def medefaidrin : CharClass :=
  ofRuns
    "93760 91"

/-- Characters used with the script Meetei Mayek. -/
def meeteiMayek : CharClass :=
  ofRuns
    "43744 23 201 46 2 10"

/-- Characters used with the script Mende Kikakui. -/
def mendeKikakui : CharClass :=
  ofRuns
    "124928 197 2 16"

/-- Characters used with the script Meroitic Cursive. -/
def meroiticCursive : CharClass :=
  ofRuns
    "68000 24 4 20 2 46"

/-- Characters used with the script Meroitic Hieroglyphs. -/
def meroiticHieroglyphs : CharClass :=
  ofRuns
    "67968 32"

/-- Characters used with the script Miao. -/
def miao : CharClass :=
  ofRuns
    "93952 75 4 57 7 17"

/-- Characters used with the script Modi. -/
def modi : CharClass :=
  ofRuns
    "43056 10 28102 69 11 10"

/-- Characters used with the script Mongolian. -/
def mongolian : CharClass :=
  ofRuns
    "6144 26 6 89 7 43 1924 1 63024 13"

/-- Characters used with the script Mro. -/
def mro : CharClass :=
  ofRuns
    "92736 31 1 10 4 2"

/-- Characters used with the script Multani. -/
def multani : CharClass :=
  ofRuns
    "2662 10 67600 7 1 1 1 4 1 15 1 11"

/-- Characters used with the script Myanmar. -/
def myanmar : CharClass :=
  ofRuns
    "4096 160 39054 1 177 31 97 32 27728 20"

/-- Characters used with the script Nabataean. -/
def nabataean : CharClass :=
  ofRuns
    "67712 31 8 9"

/-- Characters used with the script Nag Mundari. -/
def nagMundari : CharClass :=
  ofRuns
    "124112 42"

/-- Characters used with the script Nandinagari. -/
def nandinagari : CharClass :=
  ofRuns
    "2404 2 896 10 4089 1 8 1 7 1 35637 6 29034 8 2 46 2 11"

/-- Characters used with the script New Tai Lue. -/
def newTaiLue : CharClass :=
  ofRuns
    "6528 44 4 26 6 11 3 2"

/-- Characters used with the script Newa. -/
def newa : CharClass :=
  ofRuns
    "70656 92 1 5"

/-- Characters used with the script Nko. -/
def nko : CharClass :=
  ofRuns
    "1548 1 14 1 3 1 416 59 2 3 62782 2"

/-- Characters used with the script Nushu. -/
def nushu : CharClass :=
  ofRuns
    "94177 1 16782 396"

/-- Characters used with the script Nyiakeng Puachue Hmong. -/
def nyiakengPuachueHmong : CharClass :=
  ofRuns
    "123136 45 3 14 2 10 4 2"

/-- Characters used with the script Ogham. -/
def ogham : CharClass :=
  ofRuns
    "5760 29"

/-- Characters used with the script Ol Chiki. -/
def olChiki : CharClass :=
  ofRuns
    "7248 48"

/-- Characters used with the script Ol Onal. -/
def olOnal : CharClass :=
  ofRuns
    "124368 43 4 1"

/-- Characters used with the script Old Hungarian. -/
def oldHungarian : CharClass :=
  ofRuns
    "68736 51 13 51 7 6"

/-- Characters used with the script Old Italic. -/
def oldItalic : CharClass :=
  ofRuns
    "66304 36 9 3"

/-- Characters used with the script Old North Arabian. -/
def oldNorthArabian : CharClass :=
  ofRuns
    "68224 32"

/-- Characters used with the script Old Permic. -/
def oldPermic : CharClass :=
  ofRuns
    "1155 1 65228 43"

/-- Characters used with the script Old Persian. -/
def oldPersian : CharClass :=
  ofRuns
    "66464 36 4 14"

/-- Characters used with the script Old Sogdian. -/
def oldSogdian : CharClass :=
  ofRuns
    "69376 40"

/-- Characters used with the script Old South Arabian. -/
def oldSouthArabian : CharClass :=
  ofRuns
    "68192 32"

/-- Characters used with the script Old Turkic. -/
def oldTurkic : CharClass :=
  ofRuns
    "68608 73"

/-- Characters used with the script Old Uyghur. -/
def oldUyghur : CharClass :=
  ofRuns
    "1600 1 66737 1 1149 26"

/-- Characters used with the script Oriya. -/
def oriya : CharClass :=
  ofRuns
    "2385 2 17 2 411 3 1 8 2 2 2 22 1 7 1 2 1 5 2 9 2 2 2 3 7 3 4 2 1 5 2 18 4450 1 23 1"

/-- Characters used with the script Osage. -/
def osage : CharClass :=
  ofRuns
    "66736 36 4 36"

/-- Characters used with the script Osmanya. -/
def osmanya : CharClass :=
  ofRuns
    "66688 30 2 10"

/-- Characters used with the script Pahawh Hmong. -/
def pahawhHmong : CharClass :=
  ofRuns
    "92928 70 10 10 1 7 1 21 5 19"

/-- Characters used with the script Palmyrene. -/
def palmyrene : CharClass :=
  ofRuns
    "67680 32"

/-- Characters used with the script Pau Cin Hau. -/
def pauCinHau : CharClass :=
  ofRuns
    "72384 57"

/-- Characters used with the script Phags Pa. -/
def phagsPa : CharClass :=
  ofRuns
    "6146 2 1 1 36922 56"

/-- Characters used with the script Phoenician. -/
def phoenician : CharClass :=
  ofRuns
    "67840 28 3 1"

/-- Characters used with the script Psalter Pahlavi. -/
def psalterPahlavi : CharClass :=
  ofRuns
    "1600 1 66879 18 7 4 12 7"

/-- Characters used with the script Rejang. -/
def rejang : CharClass :=
  ofRuns
    "43312 36 11 1"

/-- Characters used with the script Runic. -/
def runic : CharClass :=
  ofRuns
    "5792 75 3 11"

/-- Characters used with the script Samaritan. -/
def samaritan : CharClass :=
  ofRuns
    "2048 46 2 15"

/-- Characters used with the script Saurashtra. -/
def saurashtra : CharClass :=
  ofRuns
    "43136 70 8 12"

/-- Characters used with the script Sharada. -/
def sharada : CharClass :=
  ofRuns
    "2385 1 4997 1 1 1 2 2 2 1 62623 96"

/-- Characters used with the script Shavian. -/
def shavian : CharClass :=
  ofRuns
    "66640 48"

/-- Characters used with the script Siddham. -/
def siddham : CharClass :=
  ofRuns
    "71040 54 2 38"

/-- Characters used with the script SignWriting. -/
def signWriting : CharClass :=
  ofRuns
    "120832 652 15 5 1 15"

/-- Characters used with the script Sinhala. -/
def sinhala : CharClass :=
  ofRuns
    "2404 2 1051 3 1 18 3 24 1 9 1 1 2 7 3 1 4 6 1 1 1 8 6 10 2 3 66540 20"

/-- Characters used with the script Sogdian. -/
def sogdian : CharClass :=
  ofRuns
    "1600 1 67823 42"

/-- Characters used with the script Sora Sompeng. -/
def soraSompeng : CharClass :=
  ofRuns
    "69840 25 7 10"

/-- Characters used with the script Soyombo. -/
def soyombo : CharClass :=
  ofRuns
    "72272 83"

/-- Characters used with the script Sundanese. -/
def sundanese : CharClass :=
  ofRuns
    "7040 64 256 8"

/-- Characters used with the script Sunuwar. -/
def sunuwar : CharClass :=
  ofRuns
    "72640 34 14 10"

/-- Characters used with the script Syloti Nagri. -/
def sylotiNagri : CharClass :=
  ofRuns
    "2404 2 128 10 40464 45"

/-- Characters used with the script Syriac. -/
def syriac : CharClass :=
  ofRuns
    "1548 1 14 2 2 1 32 1 10 11 26 1 143 14 1 60 2 3 272 11 5517 1 1 1"

/-- Characters used with the script Tagalog. -/
def tagalog : CharClass :=
  ofRuns
    "5888 22 9 1 21 2"

/-- Characters used with the script Tagbanwa. -/
def tagbanwa : CharClass :=
  ofRuns
    "5941 2 41 13 1 3 1 2"

/-- Characters used with the script Tai Le. -/
def taiLe : CharClass :=
  ofRuns
    "4160 10 2310 30 2 5"

/-- Characters used with the script Tai Tham. -/
def taiTham : CharClass :=
  ofRuns
    "6688 63 1 29 2 11 6 10 6 14"

/-- Characters used with the script Tai Viet. -/
def taiViet : CharClass :=
  ofRuns
    "43648 67 24 5"

/-- Characters used with the script Takri. -/
def takri : CharClass :=
  ofRuns
    "2404 2 40650 10 28230 58 6 10"

/-- Characters used with the script Tamil. -/
def tamil : CharClass :=
  ofRuns
    ("2385 2 17 2 540 2 1 6 3 3 1 4 3 2 1 1 1 2 3 2 3 3 3 12 4 5 3 3 1 4 2 1 6 1 14 21 4319 1 " ++
     "35864 1 27149 1 1 1 55 2 3203 50 13 1")

/-- Characters used with the script Tangsa. -/
def tangsa : CharClass :=
  ofRuns
    "92784 79 1 10"

/-- Characters used with the script Tangut. -/
def tangut : CharClass :=
  ofRuns
    "94176 1 31 6136 8 768 512 9"

/-- Characters used with the script Telugu. -/
def telugu : CharClass :=
  ofRuns
    "2385 2 17 2 666 13 1 3 1 23 1 16 2 9 1 3 1 4 7 2 1 3 2 1 2 4 2 10 7 9 4186 1 23 1"

/-- Characters used with the script Thaana. -/
def thaana : CharClass :=
  ofRuns
    "1548 1 14 2 2 1 64 10 278 50 63040 1 10 1"

/-- Characters used with the script Thai. -/
def thai : CharClass :=
  ofRuns
    "3585 58 5 28"

/-- Characters used with the script Tibetan. -/
def tibetan : CharClass :=
  ofRuns
    "3840 72 1 36 4 39 1 36 1 15 1 7 4 2"

/-- Characters used with the script Tifinagh. -/
def tifinagh : CharClass :=
  ofRuns
    "11568 56 7 2 14 1"

/-- Characters used with the script Tirhuta. -/
def tirhuta : CharClass :=
  ofRuns
    "2385 2 17 2 5004 1 35645 10 27718 72 8 10"

/-- Characters used with the script Todhri. -/
def todhri : CharClass :=
  ofRuns
    "67008 52"

/-- Characters used with the script Toto. -/
def toto : CharClass :=
  ofRuns
    "123536 31"

/-- Characters used with the script Tulu Tigalari. -/
def tuluTigalari : CharClass :=
  ofRuns
    "70528 10 1 1 2 1 1 38 1 10 1 1 2 1 1 4 1 10 1 2 8 2"

/-- Characters used with the script Ugaritic. -/
def ugaritic : CharClass :=
  ofRuns
    "66432 30 1 1"

/-- Characters used with the script Vai. -/
def vai : CharClass :=
  ofRuns
    "42240 300"

/-- Characters used with the script Vithkuqi. -/
def vithkuqi : CharClass :=
  ofRuns
    "66928 11 1 15 1 7 1 2 1 11 1 15 1 7 1 2"

/-- Characters used with the script Wancho. -/
def wancho : CharClass :=
  ofRuns
    "123584 58 5 1"

/-- Characters used with the script Warang Citi. -/
def warangCiti : CharClass :=
  ofRuns
    "71840 83 12 1"

/-- Characters used with the script Yezidi. -/
def yezidi : CharClass :=
  ofRuns
    "1548 1 14 1 3 1 64 10 67606 42 1 3 2 2"

/-- Characters used with the script Yi. -/
def yi : CharClass :=
  ofRuns
    "12289 2 5 10 2 8 223 1 28420 1165 3 55 23194 5"

/-- Characters used with the script Zanabazar Square. -/
def zanabazarSquare : CharClass :=
  ofRuns
    "72192 72"

/-- The names of scripts, in small letters without separators. -/
def named : List (List String × CharClass) :=
  [(["adlm", "adlam"], adlam),
   (["ahom"], ahom),
   (["hluw", "anatolianhieroglyphs"], anatolianHieroglyphs),
   (["arab", "arabic"], arabic),
   (["armn", "armenian"], armenian),
   (["avst", "avestan"], avestan),
   (["bali", "balinese"], balinese),
   (["bamu", "bamum"], bamum),
   (["bass", "bassavah"], bassaVah),
   (["batk", "batak"], batak),
   (["beng", "bengali"], bengali),
   (["bhks", "bhaiksuki"], bhaiksuki),
   (["bopo", "bopomofo"], bopomofo),
   (["brah", "brahmi"], brahmi),
   (["brai", "braille"], braille),
   (["bugi", "buginese"], buginese),
   (["buhd", "buhid"], buhid),
   (["cans", "canadianaboriginal"], canadianAboriginal),
   (["cari", "carian"], carian),
   (["aghb", "caucasianalbanian"], caucasianAlbanian),
   (["cakm", "chakma"], chakma),
   (["cham"], cham),
   (["cher", "cherokee"], cherokee),
   (["chrs", "chorasmian"], chorasmian),
   (["zyyy", "common"], common),
   (["copt", "coptic", "qaac"], coptic),
   (["xsux", "cuneiform"], cuneiform),
   (["cprt", "cypriot"], cypriot),
   (["cpmn", "cyprominoan"], cyproMinoan),
   (["cyrl", "cyrillic"], cyrillic),
   (["dsrt", "deseret"], deseret),
   (["deva", "devanagari"], devanagari),
   (["diak", "divesakuru"], divesAkuru),
   (["dogr", "dogra"], dogra),
   (["dupl", "duployan"], duployan),
   (["egyp", "egyptianhieroglyphs"], egyptianHieroglyphs),
   (["elba", "elbasan"], elbasan),
   (["elym", "elymaic"], elymaic),
   (["ethi", "ethiopic"], ethiopic),
   (["gara", "garay"], garay),
   (["geor", "georgian"], georgian),
   (["glag", "glagolitic"], glagolitic),
   (["goth", "gothic"], gothic),
   (["gran", "grantha"], grantha),
   (["grek", "greek"], greek),
   (["gujr", "gujarati"], gujarati),
   (["gong", "gunjalagondi"], gunjalaGondi),
   (["guru", "gurmukhi"], gurmukhi),
   (["gukh", "gurungkhema"], gurungKhema),
   (["hani", "han"], han),
   (["hang", "hangul"], hangul),
   (["rohg", "hanifirohingya"], hanifiRohingya),
   (["hano", "hanunoo"], hanunoo),
   (["hatr", "hatran"], hatran),
   (["hebr", "hebrew"], hebrew),
   (["hira", "hiragana"], hiragana),
   (["armi", "imperialaramaic"], imperialAramaic),
   (["zinh", "inherited", "qaai"], inherited),
   (["phli", "inscriptionalpahlavi"], inscriptionalPahlavi),
   (["prti", "inscriptionalparthian"], inscriptionalParthian),
   (["java", "javanese"], javanese),
   (["kthi", "kaithi"], kaithi),
   (["knda", "kannada"], kannada),
   (["kana", "katakana"], katakana),
   (["kawi"], kawi),
   (["kali", "kayahli"], kayahLi),
   (["khar", "kharoshthi"], kharoshthi),
   (["kits", "khitansmallscript"], khitanSmallScript),
   (["khmr", "khmer"], khmer),
   (["khoj", "khojki"], khojki),
   (["sind", "khudawadi"], khudawadi),
   (["krai", "kiratrai"], kiratRai),
   (["laoo", "lao"], lao),
   (["latn", "latin"], latin),
   (["lepc", "lepcha"], lepcha),
   (["limb", "limbu"], limbu),
   (["lina", "lineara"], linearA),
   (["linb", "linearb"], linearB),
   (["lisu"], lisu),
   (["lyci", "lycian"], lycian),
   (["lydi", "lydian"], lydian),
   (["mahj", "mahajani"], mahajani),
   (["maka", "makasar"], makasar),
   (["mlym", "malayalam"], malayalam),
   (["mand", "mandaic"], mandaic),
   (["mani", "manichaean"], manichaean),
   (["marc", "marchen"], marchen),
   (["gonm", "masaramgondi"], masaramGondi),
   (["medf", "medefaidrin"], medefaidrin),
   (["mtei", "meeteimayek"], meeteiMayek),
   (["mend", "mendekikakui"], mendeKikakui),
   (["merc", "meroiticcursive"], meroiticCursive),
   (["mero", "meroitichieroglyphs"], meroiticHieroglyphs),
   (["plrd", "miao"], miao),
   (["modi"], modi),
   (["mong", "mongolian"], mongolian),
   (["mroo", "mro"], mro),
   (["mult", "multani"], multani),
   (["mymr", "myanmar"], myanmar),
   (["nbat", "nabataean"], nabataean),
   (["nagm", "nagmundari"], nagMundari),
   (["nand", "nandinagari"], nandinagari),
   (["talu", "newtailue"], newTaiLue),
   (["newa"], newa),
   (["nkoo", "nko"], nko),
   (["nshu", "nushu"], nushu),
   (["hmnp", "nyiakengpuachuehmong"], nyiakengPuachueHmong),
   (["ogam", "ogham"], ogham),
   (["olck", "olchiki"], olChiki),
   (["onao", "olonal"], olOnal),
   (["hung", "oldhungarian"], oldHungarian),
   (["ital", "olditalic"], oldItalic),
   (["narb", "oldnortharabian"], oldNorthArabian),
   (["perm", "oldpermic"], oldPermic),
   (["xpeo", "oldpersian"], oldPersian),
   (["sogo", "oldsogdian"], oldSogdian),
   (["sarb", "oldsoutharabian"], oldSouthArabian),
   (["orkh", "oldturkic"], oldTurkic),
   (["ougr", "olduyghur"], oldUyghur),
   (["orya", "oriya"], oriya),
   (["osge", "osage"], osage),
   (["osma", "osmanya"], osmanya),
   (["hmng", "pahawhhmong"], pahawhHmong),
   (["palm", "palmyrene"], palmyrene),
   (["pauc", "paucinhau"], pauCinHau),
   (["phag", "phagspa"], phagsPa),
   (["phnx", "phoenician"], phoenician),
   (["phlp", "psalterpahlavi"], psalterPahlavi),
   (["rjng", "rejang"], rejang),
   (["runr", "runic"], runic),
   (["samr", "samaritan"], samaritan),
   (["saur", "saurashtra"], saurashtra),
   (["shrd", "sharada"], sharada),
   (["shaw", "shavian"], shavian),
   (["sidd", "siddham"], siddham),
   (["sgnw", "signwriting"], signWriting),
   (["sinh", "sinhala"], sinhala),
   (["sogd", "sogdian"], sogdian),
   (["sora", "sorasompeng"], soraSompeng),
   (["soyo", "soyombo"], soyombo),
   (["sund", "sundanese"], sundanese),
   (["sunu", "sunuwar"], sunuwar),
   (["sylo", "sylotinagri"], sylotiNagri),
   (["syrc", "syriac"], syriac),
   (["tglg", "tagalog"], tagalog),
   (["tagb", "tagbanwa"], tagbanwa),
   (["tale", "taile"], taiLe),
   (["lana", "taitham"], taiTham),
   (["tavt", "taiviet"], taiViet),
   (["takr", "takri"], takri),
   (["taml", "tamil"], tamil),
   (["tnsa", "tangsa"], tangsa),
   (["tang", "tangut"], tangut),
   (["telu", "telugu"], telugu),
   (["thaa", "thaana"], thaana),
   (["thai"], thai),
   (["tibt", "tibetan"], tibetan),
   (["tfng", "tifinagh"], tifinagh),
   (["tirh", "tirhuta"], tirhuta),
   (["todr", "todhri"], todhri),
   (["toto"], toto),
   (["tutg", "tulutigalari"], tuluTigalari),
   (["ugar", "ugaritic"], ugaritic),
   (["vaii", "vai"], vai),
   (["vith", "vithkuqi"], vithkuqi),
   (["wcho", "wancho"], wancho),
   (["wara", "warangciti"], warangCiti),
   (["yezi", "yezidi"], yezidi),
   (["yiii", "yi"], yi),
   (["zanb", "zanabazarsquare"], zanabazarSquare)]

end LocaleLint.Unicode.ScriptExtension
