import LocaleLint.Document
import LocaleLint.Failure
import LocaleLint.Json.Reader
import LocaleLint.Language.File
import LocaleLint.Language.Leaf
import LocaleLint.Language.NameLine

/-!
# The catalog

All language files of a run together, and the keys that they declare.
-/

namespace LocaleLint

def Document.json (document : Document) : Except Failure Json :=
  (Json.ofText document.content).mapError fun (fault, place) =>
    .jsonInvalid document.path fault place

/-- The language file of a document: its leaves, each with the line that declares it. -/
def LanguageFile.ofDocument (document : Document) : Except Failure LanguageFile := do
  let value ← document.json
  let index := LineIndex.ofText document.content
  return (Leaf.all value).foldl (fun file leaf =>
    file.insert ⟨leaf.key, leaf.value, NameLine.lineOf document.content index leaf.key⟩)
    (LanguageFile.empty document.path document.stem)

/-- A place that declares a key: the file, its language, the value and the line. -/
structure Declaration where
  path : Text
  language : Text
  value : Text
  line : Nat
deriving Repr, DecidableEq

/-- A key, where it is declared, and the views that refer to it. -/
structure Key where
  name : Text
  declarations : List Declaration
  views : List Text
deriving Repr, DecidableEq

namespace Key

/-- The value of the first declaration. -/
def value? (key : Key) : Option Text := key.declarations.head?.map (·.value)

def files (key : Key) : List Text := key.declarations.map (·.path)

end Key

/-- The language files of a run. -/
structure Catalog where
  files : List LanguageFile
deriving Repr, DecidableEq

namespace Catalog

/-- The catalog of documents, or the failure of the first one that is not JSON. -/
def ofDocuments (documents : List Document) : Except Failure Catalog :=
  (documents.mapM LanguageFile.ofDocument).map Catalog.mk

/-- Whether some file declares a key. -/
def declares (catalog : Catalog) (key : Text) : Bool := catalog.files.any (·.declares key)

def filesWithout (catalog : Catalog) (key : Text) : List Text :=
  (catalog.files.filter (!·.declares key)).map (·.path)

/-- The declared keys, each once, in the order of their first declarations. -/
def keyNames (catalog : Catalog) : List Text := (catalog.files.flatMap LanguageFile.keys).eraseDups

def declarationOf (file : LanguageFile) (entry : LanguageEntry) : Declaration :=
  ⟨file.path, file.name, entry.value, entry.line⟩

/-- Puts a declaration with the others of its key, or with a new key at the end. -/
def addDeclaration (name : Text) (declaration : Declaration) : List Key → List Key
  | [] => [⟨name, [declaration], []⟩]
  | key :: rest =>
    if key.name = name then
      { key with declarations := key.declarations ++ [declaration] } :: rest
    else key :: addDeclaration name declaration rest

/-- Puts the entries of a file with the declarations of other files. -/
def addFile (keys : List Key) (file : LanguageFile) : List Key :=
  file.entries.foldl
    (fun keys entry => addDeclaration entry.key (declarationOf file entry) keys) keys

/-- The declared keys with all places that declare them. -/
def keys (catalog : Catalog) : List Key := catalog.files.foldl addFile []

end Catalog

end LocaleLint
