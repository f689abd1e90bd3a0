import LocaleLint.Pattern.Ast
import LocaleLint.Pattern.Fault
import LocaleLint.Unicode.Property
import LocaleLint.Unicode.Script
import LocaleLint.Unicode.ScriptExtension
import LocaleLint.Unicode.Age
import LocaleLint.Unicode.Break

/-!
# Property queries

The class that a query by properties stands for. Names are compared without case, spaces, dashes and
underscores, and without a leading `is`.
-/

namespace LocaleLint.Pattern

open Unicode

/-- The letters of a name that count: ASCII without separators, in small letters. -/
def looseLetters (name : Text) : Text :=
  (name.filter fun c => c.toNat < 128 && c != ' ' && c != '_' && c != '-').map Char.toLower

/-- A name as it is compared. The one name that would lose its meaning with its first two letters
keeps them. -/
def looseName (name : Text) : Text :=
  match name with
  | a :: b :: rest =>
    if (a = 'i' ∨ a = 'I') ∧ (b = 's' ∨ b = 'S') then
      if looseLetters rest = ['c'] then "isc".toList else looseLetters rest
    else looseLetters name
  | _ => looseLetters name

def lookUp (table : List (List String × CharClass)) (name : Text) : Option CharClass :=
  (table.find? fun (names, _) => names.any fun n => n.toList == name).map (·.2)

/-- The properties that have values, but none that a query may ask for. -/
def propertiesWithoutValues : List String :=
  ["nv", "numericvalue", "bmg", "bidimirroringglyph", "bpb", "bidipairedbracket", "cf",
   "casefolding", "dm", "decompositionmapping", "equideo", "equivalentunifiedideograph", "fcnfkc",
   "fcnfkcclosure", "lc", "lowercasemapping", "nfkccf", "nfkccasefold", "nfkcscf",
   "nfkcsimplecasefold", "scf", "simplecasefolding", "sfc", "slc", "simplelowercasemapping", "stc",
   "simpletitlecasemapping", "suc", "simpleuppercasemapping", "tc", "titlecasemapping", "uc",
   "uppercasemapping", "isc", "isocomment", "jsn", "jamoshortname", "na", "name", "na1",
   "unicode1name", "namealias", "blk", "block", "bc", "bidiclass", "bpt", "bidipairedbrackettype",
   "ccc", "canonicalcombiningclass", "dt", "decompositiontype", "ea", "eastasianwidth", "hst",
   "hangulsyllabletype", "inpc", "indicpositionalcategory", "insc", "indicsyllabiccategory",
   "incb", "indicconjunctbreak", "jg", "joininggroup", "jt", "joiningtype", "lb", "linebreak",
   "nfcqc", "nfcquickcheck", "nfdqc", "nfdquickcheck", "nfkcqc", "nfkcquickcheck", "nfkdqc",
   "nfkdquickcheck", "nt", "numerictype", "vo", "verticalorientation", "ce",
   "compositionexclusion", "compex", "fullcompositionexclusion", "cwkcf",
   "changeswhennfkccasefolded", "xonfc", "expandsonnfc", "xonfd", "expandsonnfd",
   "xonfkc", "expandsonnfkc", "xonfkd", "expandsonnfkd"]

/-- The tables of values of the properties that a query may ask for. -/
def valueTables : List (List String × List (List String × CharClass)) :=
  [(["gc", "generalcategory"], GeneralCategory.named),
   (["sc", "script"], Script.named),
   (["scx", "scriptextensions"], ScriptExtension.named),
   (["age"], Age.named),
   (["gcb", "graphemeclusterbreak"], Break.graphemeNamed),
   (["wb", "wordbreak"], Break.wordNamed),
   (["sb", "sentencebreak"], Break.sentenceNamed)]

/-- The names of categories and scripts that no character has. -/
def emptyValues : List String :=
  ["cs", "surrogate", "zzzz", "unknown", "hrkt", "katakanaorhiragana"]

def isNamed (names : List String) (name : Text) : Bool := names.any fun n => n.toList == name

def isProperty (name : Text) : Bool :=
  isNamed propertiesWithoutValues name || (lookUp Property.named name).isSome ||
    valueTables.any fun (names, _) => isNamed names name

/-- The class that a query stands for. A single name is that of a property, a general category or a
script, in this order; three short names of properties are left to the categories. -/
def PropertyQuery.find (query : PropertyQuery) : Except Fault CharClass :=
  match query with
  | .named name =>
    let name := looseName name
    let isCategoryOnly := isNamed ["cf", "sc", "lc"] name
    if !isCategoryOnly && isProperty name then
      match lookUp Property.named name with
      | some cls => .ok cls
      | none => .error .propertyNotFound
    else match (lookUp GeneralCategory.named name).or (lookUp Script.named name) with
      | some cls => .ok cls
      | none =>
        if isNamed emptyValues name then .error .propertyValueNotFound
        else .error .propertyNotFound
  | .valued property value =>
    let property := looseName property
    let value := looseName value
    match valueTables.find? fun (names, _) => isNamed names property with
    | some (_, table) =>
      match lookUp table value with
      | some cls => .ok cls
      | none => .error .propertyValueNotFound
    | none =>
      if isProperty property then .error .propertyValueNotFound else .error .propertyNotFound

end LocaleLint.Pattern
