import DocumentQuery.Projection
import DocumentQuery.Proofs.Document.Removal

/-! Selections that keep the identifier. Unless a selection excludes the identifier, the
selected part of a document carries the one of the whole document.
-/

set_option autoImplicit false

namespace DocumentQuery

theorem Path.ofText_ne_nil (text : String) : ofText text ≠ [] := by
  simp [ofText, Text.splitAt]

theorem Path.text_ofText (text : String) : (ofText text).text = text := by
  have pieces : (ofText text).map String.toList = text.toList.splitOn '.' := by
    simp [ofText, Text.splitAt, Function.comp_def]
  have same : (ofText text).text.toList = text.toList := by
    rw [Path.text, String.toList_intercalate, pieces]
    exact List.intercalate_splitOn '.'
  exact String.ext_iff.2 same

namespace Document

theorem get?_idKey_copyAt {path : Path} {source target : Document} {id : ObjectId}
    (named : source.get? idKey = some (.objectId id))
    (kept : target.get? idKey = some (.objectId id)) :
    (copyAt path source target).get? idKey = some (.objectId id) := by
  cases path with
  | nil => exact kept
  | cons key rest =>
    by_cases same : key = idKey
    · subst same
      cases rest with
      | nil => simp [copyAt, named, get?_set]
      | cons next rest => simpa [copyAt, named] using kept
    · -- Whatever is copied is set under another key.
      have elsewhere (value : Value) : (target.set key value).get? idKey =
          some (.objectId id) := by
        rw [get?_set, if_neg same]
        exact kept
      unfold copyAt
      split
      · exact kept
      · exact elsewhere _
      · exact elsewhere _
      · exact elsewhere _
      · exact kept

theorem get?_idKey_without {path : Path} {document : Document} {id : ObjectId}
    (other : path ≠ [idKey]) (named : document.get? idKey = some (.objectId id)) :
    (document.without path).get? idKey = some (.objectId id) := by
  cases path with
  | nil => exact named
  | cons key rest =>
    cases rest with
    | nil =>
      have apart : key ≠ idKey := fun same => other (same ▸ rfl)
      rw [without, get?_erase, if_neg apart]
      exact named
    | cons next rest =>
      rw [without_cons_cons, get?_modify, named]
      split <;> rfl

theorem get?_idKey_of_id? {document : Document} {id : ObjectId} (named : document.id? = some id) :
    document.get? idKey = some (.objectId id) := by
  rw [id?] at named
  split at named
  · rename_i found
    cases named
    exact found
  · cases named

end Document

namespace Projection

def KeepsId (projection : Option Projection) : Prop :=
  ∀ selection, projection = some selection → selection.hidesId = false

theorem get?_idKey_apply {projection : Projection} {document : Document} {id : ObjectId}
    (keeps : projection.hidesId = false) (named : document.get? idKey = some (.objectId id)) :
    (projection.apply document).get? idKey = some (.objectId id) := by
  rw [apply]
  split
  · have start : (projection.idPart document).get? idKey = some (.objectId id) := by
      simp [idPart, named, keeps, Document.get?]
    generalize projection.idPart document = selected at start ⊢
    induction projection.paths true generalizing selected with
    | nil => exact start
    | cons path rest ih => exact ih _ (Document.get?_idKey_copyAt named start)
  · have apart : ∀ path ∈ projection.paths false, path ≠ [idKey] := by
      intro path there same
      obtain ⟨⟨text, choice⟩, listed, rfl⟩ := List.mem_map.1 there
      obtain ⟨listed, hidden⟩ := List.mem_filter.1 listed
      have text_eq : text = idKey := by
        rw [← Path.text_ofText text, same]
        rfl
      have choice_eq : choice = false := by simpa using hidden
      subst text_eq choice_eq
      rw [hidesId, List.contains_eq_mem, decide_eq_false_iff_not] at keeps
      exact keeps listed
    generalize projection.paths false = paths at apart ⊢
    induction paths generalizing document with
    | nil => exact named
    | cons path rest ih =>
      exact ih (Document.get?_idKey_without (apart path List.mem_cons_self) named)
        fun other there => apart other (List.mem_cons_of_mem _ there)

theorem id?_applyTo {projection : Option Projection} {document : Document} {id : ObjectId}
    (keeps : KeepsId projection) (named : document.id? = some id) :
    (applyTo projection document).id? = some id := by
  cases projection with
  | none => exact named
  | some selection =>
    have found := get?_idKey_apply (keeps selection rfl) (Document.get?_idKey_of_id? named)
    simp [applyTo, Document.id?, found]

end Projection

end DocumentQuery
