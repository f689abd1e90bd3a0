import LocaleLint.Unicode.CharClass

/-!
# Scripts

The script of each character, as of Unicode 16. A character of several scripts is common or
inherited.
-/

namespace LocaleLint.Unicode.Script

open CharClass

def adlam : CharClass :=
  ofRuns
    "125184 76 4 10 4 2"

def ahom : CharClass :=
  ofRuns
    "71424 27 2 15 4 23"

def anatolianHieroglyphs : CharClass :=
  ofRuns
    "82944 583"

def arabic : CharClass :=
  ofRuns
    ("1536 5 1 6 1 14 1 3 1 32 1 10 11 26 1 108 1 34 80 48 240 31 1 2 5 75 1 29 62032 115 16 " ++
     "363 2 80 2 54 7 1 32 16 112 5 1 135 3939 31 67 3 55 4 57088 4 1 27 1 2 1 1 2 1 1 10 1 4 1 " ++
     "1 1 1 6 1 4 1 1 1 1 1 1 3 1 2 1 1 2 1 1 1 1 1 1 1 1 1 1 2 1 1 2 4 1 7 1 4 1 4 1 1 1 10 1 " ++
     "17 5 3 1 5 1 17 52 2")

def armenian : CharClass :=
  ofRuns
    "1329 38 2 50 2 3 62851 5"

def avestan : CharClass :=
  ofRuns
    "68352 54 3 7"

def balinese : CharClass :=
  ofRuns
    "6912 77 1 50"

def bamum : CharClass :=
  ofRuns
    "42656 88 49416 569"

def bassaVah : CharClass :=
  ofRuns
    "92880 30 2 6"

def batak : CharClass :=
  ofRuns
    "7104 52 8 4"

def bengali : CharClass :=
  ofRuns
    "2432 4 1 8 2 2 2 22 1 7 1 1 3 4 2 9 2 2 2 4 8 1 4 2 1 5 2 25"

def bhaiksuki : CharClass :=
  ofRuns
    "72704 9 1 45 1 14 10 29"

def bopomofo : CharClass :=
  ofRuns
    "746 2 11801 43 112 32"

def brahmi : CharClass :=
  ofRuns
    "69632 78 4 36 9 1"

def braille : CharClass :=
  ofRuns
    "10240 256"

def buginese : CharClass :=
  ofRuns
    "6656 28 2 2"

def buhid : CharClass :=
  ofRuns
    "5952 20"

def canadianAboriginal : CharClass :=
  ofRuns
    "5120 640 560 70 65978 16"

def carian : CharClass :=
  ofRuns
    "66208 49"

def caucasianAlbanian : CharClass :=
  ofRuns
    "66864 52 11 1"

def chakma : CharClass :=
  ofRuns
    "69888 53 1 18"

def cham : CharClass :=
  ofRuns
    "43520 55 9 14 2 10 2 4"

def cherokee : CharClass :=
  ofRuns
    "5024 86 2 6 38770 80"

def chorasmian : CharClass :=
  ofRuns
    "69552 28"

def common : CharClass :=
  (ofRanges [(0, 64), (91, 96), (123, 127)]).union (ofRuns
    ("128 42 1 15 1 5 23 1 31 1 449 39 5 5 2 20 116 1 9 1 6 1 1 1 637 1 6 1 14 1 3 1 32 1 156 1 " ++
     "516 1 129 2 1241 1 405 4 290 1 1519 3 71 2 203 2 1 1 1229 1 13 1 7 4 1 6 1 3 2 1 773 12 2 " ++
     "87 1 11 3 11 1 15 17 33 63 38 1 3 2 6 1 27 1 17 41 3 4 666 22 11 21 928 256 628 2 32 1 " ++
     "105 512 94 402 21 1 1 1 25 15 8 4 4 91 2 3 1 90 2 147 16 32 38 9 1 48 64 31 81 47 1 88 " ++
     "168 6592 64 22784 34 102 3 165 10 244 1 160 1 395 1 14 2 20946 2 208 10 22 35 1 19 1 4 " ++
     "147 1 1 32 26 6 26 11 10 1 45 2 64 7 1 7 10 5 258 3 4 45 3 9 80 13 51 45 228 27 47524 4 " ++
     "3932 250 6 436 156 116 60 246 10 39 2 62 3 17 8 2 7 30 4 61 213 20 12 20 12 87 9 25 135 " ++
     "85 1 71 1 2 2 1 2 2 2 4 1 12 1 1 1 7 1 65 1 4 2 8 1 7 1 28 1 4 1 5 1 1 3 7 1 340 2 292 2 " ++
     "50 5233 68 76 61 706 44 4 100 12 15 2 15 1 15 1 37 10 174 56 26 1 2 13 44 4 9 7 2 14 6 " ++
     "154 984 4 17 3 13 3 119 4 95 6 12 4 1 15 12 4 56 8 10 6 40 8 30 2 12 4 2 62 340 12 14 2 " ++
     "13 3 10 5 56 7 15 2 11 6 9 7 147 1 102 787463 1 30 96"))

def coptic : CharClass :=
  ofRuns
    "994 14 10384 116 5 7"

def cuneiform : CharClass :=
  ofRuns
    "73728 922 102 111 1 5 11 196"

def cypriot : CharClass :=
  ofRuns
    "67584 6 2 1 1 44 1 2 3 1 2 1"

def cyproMinoan : CharClass :=
  ofRuns
    "77712 99"

def cyrillic : CharClass :=
  ofRuns
    "1024 133 2 169 5968 11 160 1 76 1 4199 32 30784 96 22414 2 57856 62 33 1"

def deseret : CharClass :=
  ofRuns
    "66560 80"

def devanagari : CharClass :=
  ofRuns
    "2304 81 4 15 2 26 40800 32 29184 10"

def divesAkuru : CharClass :=
  ofRuns
    "71936 7 2 1 2 8 1 2 1 30 1 2 2 12 9 10"

def dogra : CharClass :=
  ofRuns
    "71680 60"

def duployan : CharClass :=
  ofRuns
    "113664 107 5 13 3 9 7 10 2 4"

def egyptianHieroglyphs : CharClass :=
  ofRuns
    "77824 1110 10 3995"

def elbasan : CharClass :=
  ofRuns
    "66816 40"

def elymaic : CharClass :=
  ofRuns
    "69600 23"

def ethiopic : CharClass :=
  ofRuns
    ("4608 73 1 4 2 7 1 1 1 4 2 41 1 4 2 33 1 4 2 7 1 1 1 4 2 15 1 57 1 4 2 67 2 32 3 26 6630 " ++
     "23 9 7 1 7 1 7 1 7 1 7 1 7 1 7 1 7 32034 6 2 6 2 6 9 7 1 7 81073 7 1 4 1 2 1 15")

def garay : CharClass :=
  ofRuns
    "68928 38 3 29 8 2"

def georgian : CharClass :=
  ofRuns
    "4256 38 1 1 5 1 2 43 1 4 2960 43 2 3 4160 38 1 1 5 1"

def glagolitic : CharClass :=
  ofRuns
    "11264 96 111520 7 1 17 2 7 1 2 1 5"

def gothic : CharClass :=
  ofRuns
    "66352 27"

def grantha : CharClass :=
  ofRuns
    "70400 4 1 8 2 2 2 22 1 7 1 2 1 5 2 9 2 2 2 3 2 1 6 1 5 7 2 7 3 5"

def greek : CharClass :=
  ofRuns
    ("880 4 1 3 2 4 1 1 4 1 1 1 1 3 1 1 1 20 1 63 14 16 6438 5 50 5 4 5 84 1 320 22 2 6 2 38 2 " ++
     "6 2 8 1 1 1 1 1 1 1 31 2 53 1 15 1 14 2 6 1 19 2 3 1 9 295 1 35390 1 21978 79 17 1 53343 " ++
     "70")

def gujarati : CharClass :=
  ofRuns
    "2689 3 1 9 1 3 1 22 1 7 1 2 1 5 2 10 1 3 1 3 2 1 15 4 2 12 7 7"

def gunjalaGondi : CharClass :=
  ofRuns
    "73056 6 1 2 1 37 1 2 1 6 7 10"

def gurmukhi : CharClass :=
  ofRuns
    "2561 3 1 6 4 2 2 22 1 7 1 2 1 2 1 2 2 1 1 5 4 2 2 3 3 1 7 4 1 1 7 17"

def gurungKhema : CharClass :=
  ofRuns
    "90368 58"

def han : CharClass :=
  ofRuns
    ("11904 26 1 89 12 214 47 1 1 1 25 9 14 4 964 6592 64 20992 22784 366 2 106 29960 2 12 2 " ++
     "36878 42720 32 4154 6 222 2 5762 14 7473 15 622 2466 542 1506 4939 5 4192")

def hangul : CharClass :=
  ofRuns
    ("4352 256 7726 2 257 94 113 31 65 31 30433 29 643 11172 12 23 4 49 10148 31 3 6 2 6 2 6 2 " ++
     "3")

def hanifiRohingya : CharClass :=
  ofRuns
    "68864 40 8 10"

def hanunoo : CharClass :=
  ofRuns
    "5920 21"

def hatran : CharClass :=
  ofRuns
    "67808 19 1 2 5 5"

def hebrew : CharClass :=
  ofRuns
    "1425 55 8 27 4 6 62760 26 1 5 1 1 1 2 1 2 1 10"

def hiragana : CharClass :=
  ofRuns
    "12353 86 6 3 98145 287 18 1 29 3 16557 1"

def imperialAramaic : CharClass :=
  ofRuns
    "67648 22 1 9"

def inherited : CharClass :=
  ofRuns
    ("768 112 277 2 452 11 26 1 736 4 4443 31 513 3 1 13 1 7 4 1 6 1 3 2 198 64 524 2 194 33 " ++
     "3897 4 107 2 52581 16 16 14 975 1 226 1 4186 1 48068 46 2 23 544 3 17 8 2 7 30 4 798546 " ++
     "240")

def inscriptionalPahlavi : CharClass :=
  ofRuns
    "68448 19 5 8"

def inscriptionalParthian : CharClass :=
  ofRuns
    "68416 22 2 8"

def javanese : CharClass :=
  ofRuns
    "43392 78 2 10 4 2"

def kaithi : CharClass :=
  ofRuns
    "69760 67 10 1"

def kannada : CharClass :=
  ofRuns
    "3200 13 1 3 1 23 1 10 1 5 2 9 1 3 1 4 7 2 6 2 1 4 2 10 1 3"

def katakana : CharClass :=
  ofRuns
    "12449 90 2 3 240 16 208 47 1 88 52238 10 1 45 45138 4 1 7 1 2 1 1 287 3 50 1 14 4"

def kawi : CharClass :=
  ofRuns
    "73472 17 1 41 3 29"

def kayahLi : CharClass :=
  ofRuns
    "43264 46 1 1"

def kharoshthi : CharClass :=
  ofRuns
    "68096 4 1 2 5 8 1 3 1 29 2 3 4 10 7 9"

def khitanSmallScript : CharClass :=
  ofRuns
    "94180 1 6939 470 41 1"

def khmer : CharClass :=
  ofRuns
    "6016 94 2 10 6 10 486 32"

def khojki : CharClass :=
  ofRuns
    "70144 18 1 47"

def khudawadi : CharClass :=
  ofRuns
    "70320 59 5 10"

def kiratRai : CharClass :=
  ofRuns
    "93504 58"

def lao : CharClass :=
  ofRuns
    "3713 2 1 1 1 5 1 24 1 1 1 23 2 5 1 1 1 7 1 10 2 4"

def latin : CharClass :=
  (ofRanges [(65, 90), (97, 122)]).union (ofRuns
    ("170 1 15 1 5 23 1 31 1 449 39 5 6683 38 6 49 5 4 5 13 1 70 65 256 369 1 13 1 16 13 141 2 " ++
     "6 1 27 1 17 41 2775 32 31394 102 3 67 2 2 1 1 1 8 21 14 816 43 1 9 1 4 20374 7 1050 26 6 " ++
     "26 2085 6 1 42 1 9 55109 31 6 6"))

def lepcha : CharClass :=
  ofRuns
    "7168 56 3 15 3 3"

def limbu : CharClass :=
  ofRuns
    "6400 31 1 12 4 12 4 1 3 12"

def linearA : CharClass :=
  ofRuns
    "67072 311 9 22 10 8"

def linearB : CharClass :=
  ofRuns
    "65536 12 1 26 1 19 1 2 1 15 2 14 34 123"

def lisu : CharClass :=
  ofRuns
    "42192 48 31408 1"

def lycian : CharClass :=
  ofRuns
    "66176 29"

def lydian : CharClass :=
  ofRuns
    "67872 26 5 1"

def mahajani : CharClass :=
  ofRuns
    "69968 39"

def makasar : CharClass :=
  ofRuns
    "73440 25"

def malayalam : CharClass :=
  ofRuns
    "3328 13 1 3 1 51 1 3 1 6 4 16 2 26"

def mandaic : CharClass :=
  ofRuns
    "2112 28 2 1"

def manichaean : CharClass :=
  ofRuns
    "68288 39 4 12"

def marchen : CharClass :=
  ofRuns
    "72816 32 2 22 1 14"

def masaramGondi : CharClass :=
  ofRuns
    "72960 7 1 2 1 44 3 1 1 2 1 9 8 10"

def medefaidrin : CharClass :=
  ofRuns
    "93760 91"

def meeteiMayek : CharClass :=
  ofRuns
    "43744 23 201 46 2 10"

def mendeKikakui : CharClass :=
  ofRuns
    "124928 197 2 16"

def meroiticCursive : CharClass :=
  ofRuns
    "68000 24 4 20 2 46"

def meroiticHieroglyphs : CharClass :=
  ofRuns
    "67968 32"

def miao : CharClass :=
  ofRuns
    "93952 75 4 57 7 17"

def modi : CharClass :=
  ofRuns
    "71168 69 11 10"

def mongolian : CharClass :=
  ofRuns
    "6144 2 2 1 1 20 6 89 7 43 64949 13"

def mro : CharClass :=
  ofRuns
    "92736 31 1 10 4 2"

def multani : CharClass :=
  ofRuns
    "70272 7 1 1 1 4 1 15 1 11"

def myanmar : CharClass :=
  ofRuns
    "4096 160 39232 31 97 32 27728 20"

def nabataean : CharClass :=
  ofRuns
    "67712 31 8 9"

def nagMundari : CharClass :=
  ofRuns
    "124112 42"

def nandinagari : CharClass :=
  ofRuns
    "72096 8 2 46 2 11"

def newTaiLue : CharClass :=
  ofRuns
    "6528 44 4 26 6 11 3 2"

def newa : CharClass :=
  ofRuns
    "70656 92 1 5"

def nko : CharClass :=
  ofRuns
    "1984 59 2 3"

def nushu : CharClass :=
  ofRuns
    "94177 1 16782 396"

def nyiakengPuachueHmong : CharClass :=
  ofRuns
    "123136 45 3 14 2 10 4 2"

def ogham : CharClass :=
  ofRuns
    "5760 29"

def olChiki : CharClass :=
  ofRuns
    "7248 48"

def olOnal : CharClass :=
  ofRuns
    "124368 43 4 1"

def oldHungarian : CharClass :=
  ofRuns
    "68736 51 13 51 7 6"

def oldItalic : CharClass :=
  ofRuns
    "66304 36 9 3"

def oldNorthArabian : CharClass :=
  ofRuns
    "68224 32"

def oldPermic : CharClass :=
  ofRuns
    "66384 43"

def oldPersian : CharClass :=
  ofRuns
    "66464 36 4 14"

def oldSogdian : CharClass :=
  ofRuns
    "69376 40"

def oldSouthArabian : CharClass :=
  ofRuns
    "68192 32"

def oldTurkic : CharClass :=
  ofRuns
    "68608 73"

def oldUyghur : CharClass :=
  ofRuns
    "69488 26"

def oriya : CharClass :=
  ofRuns
    "2817 3 1 8 2 2 2 22 1 7 1 2 1 5 2 9 2 2 2 3 7 3 4 2 1 5 2 18"

def osage : CharClass :=
  ofRuns
    "66736 36 4 36"

def osmanya : CharClass :=
  ofRuns
    "66688 30 2 10"

def pahawhHmong : CharClass :=
  ofRuns
    "92928 70 10 10 1 7 1 21 5 19"

def palmyrene : CharClass :=
  ofRuns
    "67680 32"

def pauCinHau : CharClass :=
  ofRuns
    "72384 57"

def phagsPa : CharClass :=
  ofRuns
    "43072 56"

def phoenician : CharClass :=
  ofRuns
    "67840 28 3 1"

def psalterPahlavi : CharClass :=
  ofRuns
    "68480 18 7 4 12 7"

def rejang : CharClass :=
  ofRuns
    "43312 36 11 1"

def runic : CharClass :=
  ofRuns
    "5792 75 3 11"

def samaritan : CharClass :=
  ofRuns
    "2048 46 2 15"

def saurashtra : CharClass :=
  ofRuns
    "43136 70 8 12"

def sharada : CharClass :=
  ofRuns
    "70016 96"

def shavian : CharClass :=
  ofRuns
    "66640 48"

def siddham : CharClass :=
  ofRuns
    "71040 54 2 38"

def signWriting : CharClass :=
  ofRuns
    "120832 652 15 5 1 15"

def sinhala : CharClass :=
  ofRuns
    "3457 3 1 18 3 24 1 9 1 1 2 7 3 1 4 6 1 1 1 8 6 10 2 3 66540 20"

def sogdian : CharClass :=
  ofRuns
    "69424 42"

def soraSompeng : CharClass :=
  ofRuns
    "69840 25 7 10"

def soyombo : CharClass :=
  ofRuns
    "72272 83"

def sundanese : CharClass :=
  ofRuns
    "7040 64 256 8"

def sunuwar : CharClass :=
  ofRuns
    "72640 34 14 10"

def sylotiNagri : CharClass :=
  ofRuns
    "43008 45"

def syriac : CharClass :=
  ofRuns
    "1792 14 1 60 2 3 272 11"

def tagalog : CharClass :=
  ofRuns
    "5888 22 9 1"

def tagbanwa : CharClass :=
  ofRuns
    "5984 13 1 3 1 2"

def taiLe : CharClass :=
  ofRuns
    "6480 30 2 5"

def taiTham : CharClass :=
  ofRuns
    "6688 63 1 29 2 11 6 10 6 14"

def taiViet : CharClass :=
  ofRuns
    "43648 67 24 5"

def takri : CharClass :=
  ofRuns
    "71296 58 6 10"

def tamil : CharClass :=
  ofRuns
    "2946 2 1 6 3 3 1 4 3 2 1 1 1 2 3 2 3 3 3 12 4 5 3 3 1 4 2 1 6 1 14 21 70597 50 13 1"

def tangsa : CharClass :=
  ofRuns
    "92784 79 1 10"

def tangut : CharClass :=
  ofRuns
    "94176 1 31 6136 8 768 512 9"

def telugu : CharClass :=
  ofRuns
    "3072 13 1 3 1 23 1 16 2 9 1 3 1 4 7 2 1 3 2 1 2 4 2 10 7 9"

def thaana : CharClass :=
  ofRuns
    "1920 50"

def thai : CharClass :=
  ofRuns
    "3585 58 5 28"

def tibetan : CharClass :=
  ofRuns
    "3840 72 1 36 4 39 1 36 1 15 1 7 4 2"

def tifinagh : CharClass :=
  ofRuns
    "11568 56 7 2 14 1"

def tirhuta : CharClass :=
  ofRuns
    "70784 72 8 10"

def todhri : CharClass :=
  ofRuns
    "67008 52"

def toto : CharClass :=
  ofRuns
    "123536 31"

def tuluTigalari : CharClass :=
  ofRuns
    "70528 10 1 1 2 1 1 38 1 10 1 1 2 1 1 4 1 10 1 2 8 2"

def ugaritic : CharClass :=
  ofRuns
    "66432 30 1 1"

def vai : CharClass :=
  ofRuns
    "42240 300"

def vithkuqi : CharClass :=
  ofRuns
    "66928 11 1 15 1 7 1 2 1 11 1 15 1 7 1 2"

def wancho : CharClass :=
  ofRuns
    "123584 58 5 1"

def warangCiti : CharClass :=
  ofRuns
    "71840 83 12 1"

def yezidi : CharClass :=
  ofRuns
    "69248 42 1 3 2 2"

def yi : CharClass :=
  ofRuns
    "40960 1165 3 55"

def zanabazarSquare : CharClass :=
  ofRuns
    "72192 72"

/-- The names of scripts, in small letters without separators. -/
def named : List (List String × CharClass) :=
  [(["adlm", "adlam"], adlam),
   (["ahom"], ahom),
   (["hluw", "anatolianhieroglyphs"], anatolianHieroglyphs),
   (["arab", "arabic"], arabic),
   (["armn", "armenian"], armenian),
   (["avst", "avestan"], avestan),
   (["bali", "balinese"], balinese),
   (["bamu", "bamum"], bamum),
   (["bass", "bassavah"], bassaVah),
   (["batk", "batak"], batak),
   (["beng", "bengali"], bengali),
   (["bhks", "bhaiksuki"], bhaiksuki),
   (["bopo", "bopomofo"], bopomofo),
   (["brah", "brahmi"], brahmi),
   (["brai", "braille"], braille),
   (["bugi", "buginese"], buginese),
   (["buhd", "buhid"], buhid),
   (["cans", "canadianaboriginal"], canadianAboriginal),
   (["cari", "carian"], carian),
   (["aghb", "caucasianalbanian"], caucasianAlbanian),
   (["cakm", "chakma"], chakma),
   (["cham"], cham),
   (["cher", "cherokee"], cherokee),
   (["chrs", "chorasmian"], chorasmian),
   (["zyyy", "common"], common),
   (["copt", "coptic", "qaac"], coptic),
   (["xsux", "cuneiform"], cuneiform),
   (["cprt", "cypriot"], cypriot),
   (["cpmn", "cyprominoan"], cyproMinoan),
   (["cyrl", "cyrillic"], cyrillic),
   (["dsrt", "deseret"], deseret),
   (["deva", "devanagari"], devanagari),
   (["diak", "divesakuru"], divesAkuru),
   (["dogr", "dogra"], dogra),
   (["dupl", "duployan"], duployan),
   (["egyp", "egyptianhieroglyphs"], egyptianHieroglyphs),
   (["elba", "elbasan"], elbasan),
   (["elym", "elymaic"], elymaic),
   (["ethi", "ethiopic"], ethiopic),
   (["gara", "garay"], garay),
   (["geor", "georgian"], georgian),
   (["glag", "glagolitic"], glagolitic),
   (["goth", "gothic"], gothic),
   (["gran", "grantha"], grantha),
   (["grek", "greek"], greek),
   (["gujr", "gujarati"], gujarati),
   (["gong", "gunjalagondi"], gunjalaGondi),
   (["guru", "gurmukhi"], gurmukhi),
   (["gukh", "gurungkhema"], gurungKhema),
   (["hani", "han"], han),
   (["hang", "hangul"], hangul),
   (["rohg", "hanifirohingya"], hanifiRohingya),
   (["hano", "hanunoo"], hanunoo),
   (["hatr", "hatran"], hatran),
   (["hebr", "hebrew"], hebrew),
   (["hira", "hiragana"], hiragana),
   (["armi", "imperialaramaic"], imperialAramaic),
   (["zinh", "inherited", "qaai"], inherited),
   (["phli", "inscriptionalpahlavi"], inscriptionalPahlavi),
   (["prti", "inscriptionalparthian"], inscriptionalParthian),
   (["java", "javanese"], javanese),
   (["kthi", "kaithi"], kaithi),
   (["knda", "kannada"], kannada),
   (["kana", "katakana"], katakana),
   (["kawi"], kawi),
   (["kali", "kayahli"], kayahLi),
   (["khar", "kharoshthi"], kharoshthi),
   (["kits", "khitansmallscript"], khitanSmallScript),
   (["khmr", "khmer"], khmer),
   (["khoj", "khojki"], khojki),
   (["sind", "khudawadi"], khudawadi),
   (["krai", "kiratrai"], kiratRai),
   (["laoo", "lao"], lao),
   (["latn", "latin"], latin),
   (["lepc", "lepcha"], lepcha),
   (["limb", "limbu"], limbu),
   (["lina", "lineara"], linearA),
   (["linb", "linearb"], linearB),
   (["lisu"], lisu),
   (["lyci", "lycian"], lycian),
   (["lydi", "lydian"], lydian),
   (["mahj", "mahajani"], mahajani),
   (["maka", "makasar"], makasar),
   (["mlym", "malayalam"], malayalam),
   (["mand", "mandaic"], mandaic),
   (["mani", "manichaean"], manichaean),
   (["marc", "marchen"], marchen),
   (["gonm", "masaramgondi"], masaramGondi),
   (["medf", "medefaidrin"], medefaidrin),
   (["mtei", "meeteimayek"], meeteiMayek),
   (["mend", "mendekikakui"], mendeKikakui),
   (["merc", "meroiticcursive"], meroiticCursive),
   (["mero", "meroitichieroglyphs"], meroiticHieroglyphs),
   (["plrd", "miao"], miao),
   (["modi"], modi),
   (["mong", "mongolian"], mongolian),
   (["mroo", "mro"], mro),
   (["mult", "multani"], multani),
   (["mymr", "myanmar"], myanmar),
   (["nbat", "nabataean"], nabataean),
   (["nagm", "nagmundari"], nagMundari),
   (["nand", "nandinagari"], nandinagari),
   (["talu", "newtailue"], newTaiLue),
   (["newa"], newa),
   (["nkoo", "nko"], nko),
   (["nshu", "nushu"], nushu),
   (["hmnp", "nyiakengpuachuehmong"], nyiakengPuachueHmong),
   (["ogam", "ogham"], ogham),
   (["olck", "olchiki"], olChiki),
   (["onao", "olonal"], olOnal),
   (["hung", "oldhungarian"], oldHungarian),
   (["ital", "olditalic"], oldItalic),
   (["narb", "oldnortharabian"], oldNorthArabian),
   (["perm", "oldpermic"], oldPermic),
   (["xpeo", "oldpersian"], oldPersian),
   (["sogo", "oldsogdian"], oldSogdian),
   (["sarb", "oldsoutharabian"], oldSouthArabian),
   (["orkh", "oldturkic"], oldTurkic),
   (["ougr", "olduyghur"], oldUyghur),
   (["orya", "oriya"], oriya),
   (["osge", "osage"], osage),
   (["osma", "osmanya"], osmanya),
   (["hmng", "pahawhhmong"], pahawhHmong),
   (["palm", "palmyrene"], palmyrene),
   (["pauc", "paucinhau"], pauCinHau),
   (["phag", "phagspa"], phagsPa),
   (["phnx", "phoenician"], phoenician),
   (["phlp", "psalterpahlavi"], psalterPahlavi),
   (["rjng", "rejang"], rejang),
   (["runr", "runic"], runic),
   (["samr", "samaritan"], samaritan),
   (["saur", "saurashtra"], saurashtra),
   (["shrd", "sharada"], sharada),
   (["shaw", "shavian"], shavian),
   (["sidd", "siddham"], siddham),
   (["sgnw", "signwriting"], signWriting),
   (["sinh", "sinhala"], sinhala),
   (["sogd", "sogdian"], sogdian),
   (["sora", "sorasompeng"], soraSompeng),
   (["soyo", "soyombo"], soyombo),
   (["sund", "sundanese"], sundanese),
   (["sunu", "sunuwar"], sunuwar),
   (["sylo", "sylotinagri"], sylotiNagri),
   (["syrc", "syriac"], syriac),
   (["tglg", "tagalog"], tagalog),
   (["tagb", "tagbanwa"], tagbanwa),
   (["tale", "taile"], taiLe),
   (["lana", "taitham"], taiTham),
   (["tavt", "taiviet"], taiViet),
   (["takr", "takri"], takri),
   (["taml", "tamil"], tamil),
   (["tnsa", "tangsa"], tangsa),
   (["tang", "tangut"], tangut),
   (["telu", "telugu"], telugu),
   (["thaa", "thaana"], thaana),
   (["thai"], thai),
   (["tibt", "tibetan"], tibetan),
   (["tfng", "tifinagh"], tifinagh),
   (["tirh", "tirhuta"], tirhuta),
   (["todr", "todhri"], todhri),
   (["toto"], toto),
   (["tutg", "tulutigalari"], tuluTigalari),
   (["ugar", "ugaritic"], ugaritic),
   (["vaii", "vai"], vai),
   (["vith", "vithkuqi"], vithkuqi),
   (["wcho", "wancho"], wancho),
   (["wara", "warangciti"], warangCiti),
   (["yezi", "yezidi"], yezidi),
   (["yiii", "yi"], yi),
   (["zanb", "zanabazarsquare"], zanabazarSquare)]

end LocaleLint.Unicode.Script
