import Mathlib
import LocaleLint.Proofs.Language.Members
import LocaleLint.Proofs.Language.NameSearch

/-!
# The lines of keys

The line of an entry is the line on which a name ends that the search for its key finds. It is the
line of the entry's own member if no member has a name that is used in front of it in its object.
-/

namespace LocaleLint

namespace NameLine

open Json (Piece Gap Label Source Page)
open Json.Source (upTo memberPieces)
open Text (joinWith splitOn)

theorem cut_eq_none {name : Text} {pieces : List Piece}
    (absent : name ∉ pieces.filterMap Piece.name?) : cut name pieces = none := by
  induction pieces with
  | nil => rfl
  | cons piece pieces ih =>
    simp only [List.mem_filterMap, List.mem_cons, exists_eq_or_imp, not_or, not_exists,
      not_and] at absent ih
    rw [cut, if_neg absent.1, ih absent.2, Option.map_none]

theorem cut_append {name : Text} {before : List Piece}
    (absent : name ∉ before.filterMap Piece.name?) (rest : List Piece) :
    cut name (before ++ .name name :: rest) = some (before ++ [.name name], rest) := by
  induction before with
  | nil => exact if_pos rfl
  | cons piece before ih =>
    simp only [List.mem_filterMap, List.mem_cons, exists_eq_or_imp, not_or, not_exists,
      not_and] at absent ih
    rw [List.cons_append, cut, if_neg absent.1, ih absent.2]
    rfl

/-- In an object with fresh names a member is the first one with its name. -/
theorem cut_member {before behind : List (Label × Source)} {label : Label} {value : Source}
    {close : Gap} (fresh : (Source.object (before ++ (label, value) :: behind) close).Fresh)
    (front : List Piece) (none : front.filterMap Piece.name? = []) (rest : List Piece) :
    cut label.name.1
        (front ++ ((Source.object (before ++ (label, value) :: behind) close).pieces ++ rest)) =
      some (front ++ upTo before label, .plain label.colon ::
        (value.pieces ++ (memberPieces false behind ++ .plain (close.1 ++ ['\x7d']) :: rest))) := by
  have absent : label.name.1 ∉ (front ++ Piece.plain ['\x7b'] :: (memberPieces true before ++
      [Piece.plain (label.text before.isEmpty)])).filterMap Piece.name? := by
    rw [List.filterMap_append, none, List.nil_append, List.filterMap_cons_none rfl,
      List.filterMap_append, Json.Source.names_memberPieces]
    simpa [Piece.name?] using fresh.notMem
  have found := cut_append absent (.plain label.colon ::
    (value.pieces ++ (memberPieces false behind ++ .plain (close.1 ++ ['\x7d']) :: rest)))
  simpa [Json.Source.pieces_object, upTo] using found

/-- In an object with fresh names the names on the way to a member lead to it. -/
theorem frontOfNames_reaches {source target : Source} {path : List Text} {way : List Piece}
    (reaches : source.Reaches path way target) (fresh : source.Fresh) (front : List Piece)
    (none : front.filterMap Piece.name? = []) (rest : List Piece) :
    frontOfNames path (front ++ (source.pieces ++ rest)) = front ++ way := by
  induction reaches generalizing front rest with
  | here before label value behind close =>
    rw [frontOfNames, cut_member fresh front none]
    exact List.append_nil _
  | @inside before label value behind close path way target _ ih =>
    have later := ih (fresh.values _ List.mem_append_cons_self) [.plain label.colon] rfl
      (memberPieces false behind ++ .plain (close.1 ++ ['\x7d']) :: rest)
    rw [frontOfNames, cut_member fresh front none]
    dsimp only
    rw [List.append_assoc]
    exact congrArg (fun parts => front ++ (upTo before label ++ parts)) later

end NameLine

namespace Json.Page

open Text (joinWith)

/-- The members of a text. -/
def Reaches (page : Page) (path : List Text) (front : List Piece) (target : Source) : Prop :=
  ∃ way, page.body.Reaches path way target ∧ front = .plain page.before :: way

/-- The texts in which the search for a key leads to the key's own member. -/
structure IsOrderly (page : Page) : Prop where
  fresh : page.body.Fresh
  distinctive : ∀ name ∈ page.body.names, name ≠ [] ∧ NameLine.Distinctive name
  dots : page.body.DotsOnTop

end Json.Page

namespace NameLine

open Json (Piece Gap Label Source Page)
open Text (joinWith splitOn)

/-- In an orderly text the line of the key of a member that is not a container is the line on which
the name of the member ends. -/
theorem lineOf_reaches {page : Page} (orderly : page.IsOrderly)
    (distinct : ((Leaf.all page.body.value).map (·.key)).Nodup) {path : List Text}
    {front : List Piece} {target : Source} (reaches : page.Reaches path front target)
    (scalar : target.isScalar = true) :
    lineOf (Json.Piece.textOf page.pieces) (LineIndex.ofText (Json.Piece.textOf page.pieces))
      (joinWith ['.'] path) = lineBehind front := by
  obtain ⟨fresh, distinctive, dots⟩ := orderly
  obtain ⟨way, reaches, rfl⟩ := reaches
  have each : ∀ name ∈ path, Distinctive name := fun name inside =>
    (distinctive name (reaches.names name inside)).2
  have spaced := spaced_page page
  match path, reaches with
  | [], reaches => exact absurd rfl reaches.ne_nil
  | [name], reaches =>
    have found : ∃ rest, cut name page.pieces = some (.plain page.before :: way, rest) := by
      obtain ⟨before, body, behind⟩ := page
      cases reaches with
      | here => exact ⟨_, cut_member fresh [.plain before.1] rfl [.plain behind.1]⟩
      | inside _ _ _ _ later => exact absurd rfl later.ne_nil
    obtain ⟨rest, found⟩ := found
    have line := lineOf_textOf (each name (List.mem_singleton_self _))
      (fun none => absurd (found.symm.trans none) nofun) spaced
    rw [frontOf, found] at line
    exact line
  | name :: second :: rest, reaches =>
    have nested : second :: rest ≠ [] := List.cons_ne_nil _ _
    have parts : splitOn '.' (joinWith ['.'] (name :: second :: rest)) = name :: second :: rest :=
      Text.splitOn_joinWith (List.cons_ne_nil _ _) (reaches.undotted dots nested)
    have absent := Json.Source.joinWith_notMem_names fresh
      (fun name used => (distinctive name used).1) dots distinct reaches nested scalar
    have none : cut (joinWith ['.'] (name :: second :: rest)) page.pieces = none :=
      cut_eq_none (by simpa [Page.pieces, Piece.name?, Json.Source.names] using absent)
    rw [← parts] at each
    have line := lineOf_textOf (distinctive_of_parts each) (fun _ => each) spaced
    rw [frontOf, none, parts] at line
    dsimp only at line
    have front := frontOfNames_reaches reaches fresh [.plain page.before.1] rfl
      [.plain page.behind.1]
    exact line.trans (congrArg lineBehind front)

end NameLine

namespace LanguageFile

open Json (Gap Label Piece Source Page)
open NameLine (Distinctive lineBehind frontOf)
open Text (joinWith splitOn)

/-- The lines of a file without escapes. The line of an entry is the line on which the name of a
member ends: of the first member that has the key as its name, or else of the last part of the key
that is found behind the parts in front of it. In an orderly file it is the line of the entry's own
member. -/
theorem ofDocument_lines {document : Document} {value : Json}
    (read : Json.ofText document.content = .ok value) (plain : '\\' ∉ document.content) :
    (∃ page : Page, page.Writes document.content value) ∧
      ∃ file, ofDocument document = .ok file ∧
        ∀ page : Page, page.Writes document.content value →
          (∀ entry ∈ file.entries, (∀ part ∈ splitOn '.' entry.key, Distinctive part) →
            entry.line = lineBehind (frontOf entry.key page.pieces)) ∧
          (page.IsOrderly → ((Leaf.all value).map (·.key)).Nodup →
            (∀ path front target, page.Reaches path front target → target.isScalar = true →
              ∃ entry ∈ file.entries, entry.key = joinWith ['.'] path ∧
                entry.line = lineBehind front) ∧
            (page.body.ArrayFree → ∀ entry ∈ file.entries, ∃ path front target,
              page.Reaches path front target ∧ target.isScalar = true ∧
                entry.key = joinWith ['.'] path ∧ entry.line = lineBehind front)) := by
  refine ⟨Json.exists_writes read plain, _,
    ofDocument_eq_ok_iff.mpr ⟨value, mapError_eq_ok.mpr read, rfl⟩, ?_⟩
  rintro page ⟨written, rfl⟩
  have lines := @line_ofLeaves
    (NameLine.lineOf document.content (LineIndex.ofText document.content)) document.path
    document.stem (Leaf.all page.body.value)
  obtain ⟨_, _, _, keys, _⟩ := @ofLeaves_spec
    (NameLine.lineOf document.content (LineIndex.ofText document.content)) document.path
    document.stem (Leaf.all page.body.value)
  rw [← written] at lines keys ⊢
  refine ⟨fun entry inside parts => ?_, fun orderly distinct => ⟨?_, ?_⟩⟩
  · exact (lines entry inside).trans (NameLine.lineOf_textOf (NameLine.distinctive_of_parts parts)
      (fun _ => parts) (NameLine.spaced_page page))
  · rintro path front target reaches scalar
    have line := NameLine.lineOf_reaches orderly distinct reaches scalar
    obtain ⟨way, reaches, rfl⟩ := reaches
    obtain ⟨leaf, listed, key⟩ := @Json.Source.Reaches.exists_leaf _ _ _ _ reaches scalar
      orderly.fresh (fun name used => (orderly.distinctive name used).1) [] (List.forall_mem_nil _)
    obtain ⟨entry, inside, same⟩ :=
      List.mem_map.mp ((keys leaf.key).mpr (List.mem_map_of_mem listed))
    refine ⟨entry, inside, same.trans key, ?_⟩
    rw [lines entry inside, same.trans key]
    exact line
  · intro free entry inside
    obtain ⟨leaf, listed, key⟩ := List.mem_map.mp ((keys entry.key).mp (List.mem_map_of_mem inside))
    rcases @Json.Source.exists_reaches _ free orderly.fresh
      (fun name used => (orderly.distinctive name used).1) [] (List.forall_mem_nil _) _ listed with
      ⟨top, -⟩ | ⟨path, way, target, reaches, scalar, found⟩
    · exact absurd rfl top
    · have whole : page.Reaches path (.plain page.before :: way) target := ⟨way, reaches, rfl⟩
      have same := key.symm.trans found
      refine ⟨path, _, target, whole, scalar, same, ?_⟩
      rw [lines entry inside, same]
      exact NameLine.lineOf_reaches orderly distinct whole scalar

/-- A name with white space in front of it only. -/
def label (gap : Gap) (name : Json.Unescaped) : Label :=
  ⟨⟨Gap.none, gap⟩, name, Gap.none, Gap.none⟩

def feed : Gap := ⟨['\n'], by decide⟩

/-- A file with the same name in two objects, and with a name with a dot at the top. -/
def tidy : Document where
  path := "en.json".toList
  content := ("\x7b\"Common\":\x7b\"title\":\"T\"\x7d,\n\"Auth\":\x7b\n\"title\":\"A\"\x7d," ++
    "\n\"A.B\":\"x\"\x7d").toList

def tidyValue : Json :=
  .object [("Common".toList, .object [("title".toList, .string "T".toList)]),
    ("Auth".toList, .object [("title".toList, .string "A".toList)]),
    ("A.B".toList, .string "x".toList)]

/-- The title of the second object. -/
def tidyTitle : Label × Source :=
  (label feed ⟨"title".toList, by decide⟩, .string ⟨"A".toList, by decide⟩)

/-- The parts of the file. -/
def tidyPage : Page where
  before := Gap.none
  body := .object
    [(label Gap.none ⟨"Common".toList, by decide⟩, .object
        [(label Gap.none ⟨"title".toList, by decide⟩, .string ⟨"T".toList, by decide⟩)] Gap.none),
      (label feed ⟨"Auth".toList, by decide⟩, .object [tidyTitle] Gap.none),
      (label feed ⟨"A.B".toList, by decide⟩, .string ⟨"x".toList, by decide⟩)] Gap.none
  behind := Gap.none

theorem tidyPage_writes : tidyPage.Writes tidy.content tidyValue := ⟨by decide, rfl⟩

theorem tidyPage_isOrderly : tidyPage.IsOrderly := by
  have title (member : Label × Source) (scalar : member.2.Fresh) :
      (Source.object [member] Gap.none).Fresh :=
    .object (List.pairwise_singleton _ _) (List.forall_mem_singleton.mpr scalar)
  refine ⟨.object (by decide) ?_, by decide, ?_⟩
  · simp only [List.forall_mem_cons]
    exact ⟨title _ (.string _), title tidyTitle (.string _), .string _, List.forall_mem_nil _⟩
  · change ∀ member ∈ _, _
    decide

theorem tidyPage_arrayFree : tidyPage.body.ArrayFree := by
  refine .object ?_
  simp only [List.forall_mem_cons]
  exact ⟨.object (List.forall_mem_singleton.mpr (.string _)),
    .object (List.forall_mem_singleton.mpr (.string _)), .string _, List.forall_mem_nil _⟩

set_option maxRecDepth 100000 in
theorem ofDocument_lines_tidy :
    Json.ofText tidy.content = .ok tidyValue ∧ '\\' ∉ tidy.content ∧
      tidyPage.Writes tidy.content tidyValue ∧ tidyPage.IsOrderly ∧ tidyPage.body.ArrayFree ∧
      ((Leaf.all tidyValue).map (·.key)).Nodup ∧
      ∃ file, ofDocument tidy = .ok file ∧
        (∃ entry ∈ file.entries, entry.key = "Auth.title".toList ∧ entry.line = 3) ∧
        ∃ entry ∈ file.entries, entry.key = "A.B".toList ∧ entry.line = 4 := by
  have read : Json.ofText tidy.content = .ok tidyValue := rfl
  have plain : '\\' ∉ tidy.content := by decide
  have distinct : ((Leaf.all tidyValue).map (·.key)).Nodup := by decide
  obtain ⟨_, file, parsed, lines⟩ := ofDocument_lines read plain
  obtain ⟨own, _⟩ := (lines tidyPage tidyPage_writes).2 tidyPage_isOrderly distinct
  have title : tidyPage.Reaches ["Auth".toList, "title".toList] _ tidyTitle.2 :=
    ⟨_, .inside [_] (label feed ⟨"Auth".toList, by decide⟩) [_] Gap.none
      (.here [] (label feed ⟨"title".toList, by decide⟩) _ [] Gap.none), rfl⟩
  have dotted : tidyPage.Reaches ["A.B".toList] _ (.string ⟨"x".toList, by decide⟩) :=
    ⟨_, .here [_, _] (label feed ⟨"A.B".toList, by decide⟩) _ [] Gap.none, rfl⟩
  exact ⟨read, plain, tidyPage_writes, tidyPage_isOrderly, tidyPage_arrayFree, distinct, file,
    parsed, own _ _ _ title rfl, own _ _ _ dotted rfl⟩

/-- A file in which the name of a namespace is used in another one. -/
def strayed : Document where
  path := "en.json".toList
  content := ("\x7b\"Auth\":\x7b\n\"Common\":\"a\",\n\"submit\":\"b\"\x7d,\n\"Common\":\x7b" ++
    "\n\"submit\":\"c\"\x7d\x7d").toList

def strayedValue : Json :=
  .object [("Auth".toList, .object [("Common".toList, .string "a".toList),
      ("submit".toList, .string "b".toList)]),
    ("Common".toList, .object [("submit".toList, .string "c".toList)])]

/-- The member of the second namespace. -/
def strayedSubmit : Label × Source :=
  (label feed ⟨"submit".toList, by decide⟩, .string ⟨"c".toList, by decide⟩)

/-- The members of the first namespace. -/
def strayedAuth : Label × Source :=
  (label Gap.none ⟨"Auth".toList, by decide⟩, .object
    [(label feed ⟨"Common".toList, by decide⟩, .string ⟨"a".toList, by decide⟩),
      (label feed ⟨"submit".toList, by decide⟩, .string ⟨"b".toList, by decide⟩)] Gap.none)

/-- The parts of the file. -/
def strayedPage : Page where
  before := Gap.none
  body := .object [strayedAuth,
    (label feed ⟨"Common".toList, by decide⟩, .object [strayedSubmit] Gap.none)] Gap.none
  behind := Gap.none

set_option maxRecDepth 100000 in
/-- The search for `Common.submit` finds both parts in another namespace, so the line of the entry
is not the line of its own member. -/
theorem ofDocument_line_elsewhere :
    Json.ofText strayed.content = .ok strayedValue ∧ '\\' ∉ strayed.content ∧
      strayedPage.Writes strayed.content strayedValue ∧ strayedPage.body.ArrayFree ∧
      ((Leaf.all strayedValue).map (·.key)).Nodup ∧ [] ∉ (Leaf.all strayedValue).map (·.key) ∧
      ∃ file front target, ofDocument strayed = .ok file ∧
        strayedPage.Reaches ["Common".toList, "submit".toList] front target ∧
        target.isScalar = true ∧ lineBehind front = 5 ∧
        (file.get? "Common.submit".toList).map (·.line) = some 3 := by
  have read : Json.ofText strayed.content = .ok strayedValue := rfl
  have submit : strayedPage.Reaches ["Common".toList, "submit".toList] _ strayedSubmit.2 :=
    ⟨_, .inside [strayedAuth] (label feed ⟨"Common".toList, by decide⟩) [] Gap.none
      (.here [] strayedSubmit.1 _ [] Gap.none), rfl⟩
  have free : strayedPage.body.ArrayFree := by
    refine .object ?_
    simp only [List.forall_mem_cons]
    refine ⟨.object ?_, .object (List.forall_mem_singleton.mpr (.string _)), List.forall_mem_nil _⟩
    simp only [List.forall_mem_cons]
    exact ⟨.string _, .string _, List.forall_mem_nil _⟩
  refine ⟨read, by decide, ⟨by decide, rfl⟩, free, by decide, by decide, _, _, _,
    ofDocument_eq_ok_iff.mpr ⟨_, mapError_eq_ok.mpr read, rfl⟩, submit, rfl, rfl, ?_⟩
  decide +kernel

end LanguageFile

end LocaleLint
