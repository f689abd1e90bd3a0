import Mathlib
import LocaleLint.Proofs.EditDistance.Similarity
import LocaleLint.Proofs.Finding.Milder
import LocaleLint.Proofs.Language.Catalog

/-!
# What is suggested for a misprint

The suggestions for a suspect are the declared keys that are similar to it, the more similar ones
first; keys that are as similar as one another keep the order in which they are declared. That
leaves one list only. A misprint is found for each suspect that has suggestions.
-/

namespace LocaleLint

theorem Double.le_total {a b : Double} (left : a.IsNormal) (right : b.IsNormal) :
    (a.le b || b.le a) = true := by
  cases left
  cases right
  simp only [le, Bool.or_eq_true, decide_eq_true_eq]
  exact Int.le_total _ _

namespace Check

open EditDistance

/-- What is to be suggested for a suspect: each declared key once, other than the suspect and the
ignored ones, that is as similar to it as the coefficient asks; the more similar ones first, and
those that are as similar as one another in the order of their declarations. -/
structure IsRanking (coefficient : Double) (ignored : List Text) (catalog : Catalog)
    (suspect : Text) (keys : List Text) : Prop where
  nodup : keys.Nodup
  mem_iff (key : Text) : key ∈ keys ↔ catalog.declares key = true ∧ key ≠ suspect ∧
    key ∉ ignored ∧ coefficient.le (score suspect key) = true
  descending : keys.Pairwise fun a b => (score suspect b).le (score suspect a) = true
  steady : keys.Pairwise fun a b =>
    (score suspect a).le (score suspect b) = true → catalog.DeclaresBefore a b

variable {coefficient : Double} {ignored : List Text} {catalog : Catalog} {suspect : Text}
  {keys others : List Text}

/-- There is one ranking only. -/
theorem IsRanking.unique (left : IsRanking coefficient ignored catalog suspect keys)
    (right : IsRanking coefficient ignored catalog suspect others) : keys = others := by
  have permuted : keys.Perm others := (List.perm_ext_iff_of_nodup left.nodup right.nodup).mpr
    fun key => (left.mem_iff key).trans (right.mem_iff key).symm
  refine permuted.eq_of_pairwise (fun a b _ _ forth back => ?_)
    (left.descending.and left.steady) (right.descending.and right.steady)
  have first := forth.2 back.1
  have second := back.2 forth.1
  exact absurd first second.asymm

/-- Whether a key is at least as similar to a suspect as another one. -/
def isCloser (suspect a b : Text) : Bool := (score suspect b).le (score suspect a)

theorem isCloser_trans (a b c : Text) (first : isCloser suspect a b = true)
    (second : isCloser suspect b c = true) : isCloser suspect a c = true :=
  Double.le_trans second first

theorem isCloser_total (a b : Text) : (isCloser suspect a b || isCloser suspect b a) = true :=
  Double.le_total (score_approximates suspect b).normal (score_approximates suspect a).normal

/-- The keys that are similar enough are sorted, whatever they are sorted along with. -/
theorem similarTo_eq (coefficient : Double) (ignored declared : List Text) (suspect : Text) :
    similarTo coefficient ignored declared suspect =
      (declared.filter fun key => coefficient.le (score suspect key) &&
        (key ≠ suspect && !ignored.contains key)).mergeSort (isCloser suspect) := by
  unfold similarTo
  dsimp only
  rw [List.filter_map, List.filter_filter, List.map_mergeSort (s := isCloser suspect)]
  · simp [Function.comp_def]
  · intro a left b right
    obtain ⟨c, -, rfl⟩ := List.mem_map.mp left
    obtain ⟨d, -, rfl⟩ := List.mem_map.mp right
    rfl

theorem isRanking_similarTo :
    IsRanking coefficient ignored catalog suspect
      (similarTo coefficient ignored catalog.keyNames suspect) := by
  have members := fun key => @mem_similarTo coefficient ignored catalog.keyNames suspect key
  rw [similarTo_eq] at members ⊢
  generalize kept : catalog.keyNames.filter _ = list at members ⊢
  have before : list.Pairwise catalog.DeclaresBefore := kept ▸ Catalog.pairwise_keyNames.filter _
  have nodup : list.Nodup := kept ▸ Catalog.nodup_keyNames.filter _
  refine ⟨(List.mergeSort_perm list _).nodup_iff.mpr nodup, fun key => ?_,
    List.pairwise_mergeSort isCloser_trans isCloser_total list, ?_⟩
  · rw [members, Catalog.mem_keyNames_iff]
    tauto
  · rw [List.pairwise_iff_forall_sublist]
    intro a b pair asClose
    exact List.pairwise_iff_forall_sublist.mp before
      (sublist_of_sublist_mergeSort isCloser_trans isCloser_total pair asClose)

/-- The keys that are found similar are the ranking. -/
theorem isRanking_iff : IsRanking coefficient ignored catalog suspect keys ↔
    keys = similarTo coefficient ignored catalog.keyNames suspect :=
  ⟨fun ranking => ranking.unique isRanking_similarTo, fun same => same ▸ isRanking_similarTo⟩

theorem isSuspect_iff {finding : Finding} :
    isSuspect finding = true ↔ finding.rule = .zombie ∨ finding.rule = .absent := by
  unfold isSuspect
  cases finding.rule <;> simp

theorem findMisprints_eq (severity : Severity) (coefficient : Double) (ignored : List Text)
    (catalog : Catalog) (earlier : List Finding) :
    findMisprints severity coefficient ignored catalog earlier =
      (earlier.filter fun f => (f.rule = .zombie ∨ f.rule = .absent) ∧ f.key ∉ ignored ∧
        similarTo coefficient ignored catalog.keyNames f.key ≠ []).map fun f =>
          ⟨f.key, .misprint, severity, f.sourceFile, f.relatedFiles,
            similarTo coefficient ignored catalog.keyNames f.key, f.location, f.sourceLine⟩ := by
  unfold findMisprints
  dsimp only
  rw [← List.filterMap_eq_map, List.filterMap_filter, List.filterMap_filter]
  refine List.filterMap_congr fun finding _ => ?_
  unfold misprintOf?
  cases similar : similarTo coefficient ignored catalog.keyNames finding.key with
  | nil => simp
  | cons key others => simp [similar, isSuspect_iff]

/-- The rule makes one finding for each suspect, in order, that is not ignored and for which there
is a key to suggest: it is about what the suspect is about, and its suggestions are the ranking. -/
theorem run_misprint (severity : Severity) (coefficient : Double) (ignored : List Text)
    (catalog : Catalog) (views : List View) (used : List Text) (earlier : List Finding) :
    ∃ suggestions : Text → List Text,
      (∀ suspect keys, IsRanking coefficient ignored catalog suspect keys ↔
        keys = suggestions suspect) ∧
      (Check.misprint severity coefficient ignored).run catalog views used earlier =
        (earlier.filter fun f => (f.rule = .zombie ∨ f.rule = .absent) ∧ f.key ∉ ignored ∧
          suggestions f.key ≠ []).map fun f =>
            ⟨f.key, .misprint, severity, f.sourceFile, f.relatedFiles, suggestions f.key,
              f.location, f.sourceLine⟩ :=
  ⟨similarTo coefficient ignored catalog.keyNames, fun _ _ => isRanking_iff,
    findMisprints_eq severity coefficient ignored catalog earlier⟩

end Check

end LocaleLint
