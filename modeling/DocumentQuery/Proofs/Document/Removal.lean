import DocumentQuery.Document.Path

/-! Removal of paths. What lies at a path is gone once the path was removed, and
removing one path brings nothing to another, so that after any sequence of removals
every removed path is empty.
-/

set_option autoImplicit false

namespace DocumentQuery

theorem Value.valuesAt_cons (key : String) (rest : Path) (value : Value) :
    value.valuesAt (key :: rest) = value.documents.flatMap (·.valuesAt (key :: rest)) := by
  simp [Value.valuesAt, Document.valuesAt, Value.documents]

namespace Document

theorem valuesAt_cons (key : String) (rest : Path) (document : Document) :
    document.valuesAt (key :: rest) = ((document.get? key).map (·.valuesAt rest)).getD [] := by
  cases found : document.get? key <;>
    simp [valuesAt, Value.valuesAt, Value.documents, found]

theorem without_cons_cons (key next : String) (rest : Path) (document : Document) :
    document.without (key :: next :: rest) =
      document.modify key (·.mapDocuments (without (next :: rest))) := rfl

theorem without_empty (path : Path) : without path [] = [] := by
  match path with
  | [] | [_] | _ :: _ :: _ => rfl

theorem without_entry_of_ne {name key : String} (value : Value) (rest : Path)
    (document : Document) (other : name ≠ key) :
    without (key :: rest) ((name, value) :: document) =
      (name, value) :: document.without (key :: rest) := by
  cases rest with
  | nil => simp [without, erase, other]
  | cons next rest => simp [without_cons_cons, modify, other]

theorem valuesAt_without_self (key : String) (rest : Path) (document : Document) :
    (document.without (key :: rest)).valuesAt (key :: rest) = [] := by
  induction rest generalizing key document with
  | nil => simp [without, valuesAt_cons, get?_erase]
  | cons next rest ih =>
    rw [without_cons_cons, valuesAt_cons, get?_modify, if_pos rfl]
    cases document.get? key with
    | none => rfl
    | some value =>
      simp only [Option.map_some, Option.getD_some]
      rw [Value.valuesAt_cons, Value.documents_mapDocuments, List.flatMap_map]
      exact List.flatMap_eq_nil_iff.2 fun inner _ => ih next inner

theorem valuesAt_without_of_nil {path : Path} {document : Document} (removed : Path)
    (h : document.valuesAt path = []) : (document.without removed).valuesAt path = [] := by
  induction removed generalizing path document with
  | nil => exact h
  | cons key removed ih =>
    cases path with
    | nil => simp [valuesAt, Value.valuesAt] at h
    | cons name rest =>
      rw [valuesAt_cons] at h ⊢
      cases removed with
      | nil =>
        rw [without, get?_erase]
        split
        · rfl
        · exact h
      | cons next removed =>
        rw [without_cons_cons, get?_modify]
        split
        · -- The removal goes on in the documents under the very key that is read.
          cases found : document.get? name with
          | none => rfl
          | some value =>
            simp only [found, Option.map_some, Option.getD_some] at h ⊢
            cases rest with
            | nil => simp [Value.valuesAt] at h
            | cons name rest =>
              rw [Value.valuesAt_cons, List.flatMap_eq_nil_iff] at h
              rw [Value.valuesAt_cons, Value.documents_mapDocuments, List.flatMap_map]
              exact List.flatMap_eq_nil_iff.2 fun inner there => ih (h inner there)
        · exact h

theorem valuesAt_removeAll_of_nil {path : Path} {document : Document} (paths : List Path)
    (h : document.valuesAt path = []) :
    (paths.foldl (fun rest path => rest.without path) document).valuesAt path = [] := by
  induction paths generalizing document with
  | nil => exact h
  | cons next rest ih => exact ih (valuesAt_without_of_nil next h)

/-- Whatever is removed before or after, nothing is left at a removed path. -/
theorem valuesAt_removeAll {paths : List Path} {path : Path} (document : Document)
    (there : path ∈ paths) (nonempty : path ≠ []) :
    (paths.foldl (fun rest path => rest.without path) document).valuesAt path = [] := by
  induction paths generalizing document with
  | nil => simp at there
  | cons first paths ih =>
    rcases List.mem_cons.1 there with rfl | there
    · cases path with
      | nil => exact absurd rfl nonempty
      | cons key rest =>
        exact valuesAt_removeAll_of_nil paths (valuesAt_without_self key rest document)
    · exact ih _ there

end Document

end DocumentQuery
