import DocumentQuery.Proofs.Document.Removal

/-! Changes of documents at keys. Changes of values under different keys commute, those under one
key follow each other, and an erasure undoes them. So the removal of a path commutes with that of
any other, and after the removals of some paths it is of no account in which order they came and
how often each did.
-/

set_option autoImplicit false

namespace DocumentQuery

namespace Value

theorem mapDocuments_mapDocuments (first second : Document → Document) (value : Value) :
    (value.mapDocuments first).mapDocuments second = value.mapDocuments (second ∘ first) := by
  cases value with
  | array items =>
    simp only [mapDocuments, List.map_map]
    congr 2
    funext item
    cases item <;> rfl
  | _ => rfl

theorem mapDocuments_id (value : Value) : value.mapDocuments id = value := by
  cases value with
  | array items =>
    rw [mapDocuments, array.injEq]
    refine (List.map_congr_left fun item _ => ?_).trans (List.map_id items)
    cases item <;> rfl
  | _ => rfl

end Value

namespace Document

theorem modify_comm {key other : String} (apart : key ≠ other) (first second : Value → Value)
    (document : Document) :
    (document.modify key first).modify other second =
      (document.modify other second).modify key first := by
  induction document with
  | nil => rfl
  | cons entry rest ih =>
    obtain ⟨name, value⟩ := entry
    by_cases here : name = key
    · have elsewhere : name ≠ other := fun there => apart (here.symm.trans there)
      simp [modify, here, apart]
    · by_cases there : name = other
      · simp [modify, there, apart.symm]
      · simp [modify, here, there, ih]

theorem modify_modify (key : String) (first second : Value → Value) (document : Document) :
    (document.modify key first).modify key second = document.modify key (second ∘ first) := by
  induction document with
  | nil => rfl
  | cons entry rest ih =>
    obtain ⟨name, value⟩ := entry
    by_cases here : name = key <;> simp [modify, here, ih]

theorem modify_id (key : String) (document : Document) : document.modify key id = document := by
  induction document with
  | nil => rfl
  | cons entry rest ih =>
    obtain ⟨name, value⟩ := entry
    by_cases here : name = key <;> simp [modify, here, ih]

section Erasure

variable {key : String}

theorem erase_cons (key name : String) (value : Value) (rest : Document) :
    erase key ((name, value) :: rest) =
      if name = key then erase key rest else (name, value) :: erase key rest := by
  by_cases same : name = key <;> simp [erase, same]

theorem erase_erase (key : String) (document : Document) :
    (document.erase key).erase key = document.erase key := by
  simp [erase]

theorem erase_comm (key other : String) (document : Document) :
    (document.erase key).erase other = (document.erase other).erase key := by
  simp only [erase, List.filter_filter, Bool.and_comm]

theorem modify_of_absent {document : Document} (absent : document.get? key = none)
    (change : Value → Value) : document.modify key change = document := by
  induction document with
  | nil => rfl
  | cons entry rest ih =>
    obtain ⟨name, value⟩ := entry
    by_cases here : name = key
    · simp [get?, here] at absent
    · simp only [get?, if_neg here] at absent
      rw [modify, if_neg here, ih absent]

theorem erase_modify_self (key : String) (change : Value → Value) (document : Document) :
    (document.modify key change).erase key = document.erase key := by
  induction document with
  | nil => rfl
  | cons entry rest ih =>
    obtain ⟨name, value⟩ := entry
    by_cases here : name = key <;> simp [modify, erase_cons, here, ih]

theorem modify_erase (key other : String) (change : Value → Value) (document : Document) :
    (document.erase key).modify other change = (document.modify other change).erase key := by
  by_cases same : other = key
  · have absent : (document.erase key).get? key = none := by rw [get?_erase, if_pos rfl]
    rw [same, modify_of_absent absent, erase_modify_self]
  · induction document with
    | nil => rfl
    | cons entry rest ih =>
      obtain ⟨name, value⟩ := entry
      by_cases erased : name = key
      · have kept : key ≠ other := Ne.symm same
        simp [modify, erase_cons, erased, kept, ih]
      · by_cases changed : name = other <;> simp_all [modify, erase_cons]

theorem without_erase (key : String) (path : Path) (document : Document) :
    (document.erase key).without path = (document.without path).erase key := by
  rcases path with _ | ⟨first, _ | ⟨next, rest⟩⟩
  · rfl
  · exact erase_comm key first document
  · exact modify_erase key first _ document

end Erasure

theorem without_comm (path other : Path) (document : Document) :
    (document.without path).without other = (document.without other).without path := by
  induction path generalizing other document with
  | nil => rfl
  | cons key rest ih =>
    rcases rest with _ | ⟨next, rest⟩
    · exact without_erase key other document
    · rcases other with _ | ⟨key', _ | ⟨next', rest'⟩⟩
      · rfl
      · exact (without_erase key' (key :: next :: rest) document).symm
      · simp only [without_cons_cons]
        by_cases same : key = key'
        · subst same
          rw [modify_modify, modify_modify]
          congr 1
          funext value
          simp only [Function.comp, Value.mapDocuments_mapDocuments]
          congr 1
          funext inner
          exact ih (next' :: rest') inner
        · exact modify_comm same _ _ document

theorem without_without (path : Path) (document : Document) :
    (document.without path).without path = document.without path := by
  induction path generalizing document with
  | nil => rfl
  | cons key rest ih =>
    cases rest with
    | nil => exact erase_erase key document
    | cons next rest =>
      simp only [without_cons_cons, modify_modify]
      congr 1
      funext value
      simp only [Function.comp, Value.mapDocuments_mapDocuments]
      congr 1
      funext inner
      exact ih inner

section Removals

variable {paths others : List Path}

theorem removeAll_without (paths : List Path) (path : Path) (document : Document) :
    paths.foldl (fun rest path => rest.without path) (document.without path) =
      (paths.foldl (fun rest path => rest.without path) document).without path := by
  induction paths generalizing document with
  | nil => rfl
  | cons first paths ih => rw [List.foldl_cons, List.foldl_cons, without_comm, ih]

theorem removeAll_of_mem {path : Path} (there : path ∈ paths) (document : Document) :
    paths.foldl (fun rest path => rest.without path) (document.without path) =
      paths.foldl (fun rest path => rest.without path) document := by
  induction paths generalizing document with
  | nil => exact absurd there List.not_mem_nil
  | cons first paths ih =>
    rw [List.foldl_cons, List.foldl_cons]
    rcases List.mem_cons.1 there with rfl | there
    · rw [without_without]
    · rw [without_comm, ih there]

theorem removeAll_of_subset (within : others ⊆ paths) (document : Document) :
    paths.foldl (fun rest path => rest.without path)
        (others.foldl (fun rest path => rest.without path) document) =
      paths.foldl (fun rest path => rest.without path) document := by
  induction others generalizing document with
  | nil => rfl
  | cons first others ih =>
    obtain ⟨there, within⟩ := List.cons_subset.1 within
    rw [List.foldl_cons, ih within, removeAll_of_mem there]

theorem removeAll_comm (paths others : List Path) (document : Document) :
    paths.foldl (fun rest path => rest.without path)
        (others.foldl (fun rest path => rest.without path) document) =
      others.foldl (fun rest path => rest.without path)
        (paths.foldl (fun rest path => rest.without path) document) := by
  induction others generalizing document with
  | nil => rfl
  | cons first others ih => rw [List.foldl_cons, List.foldl_cons, ih, removeAll_without]

theorem removeAll_congr (same : ∀ path, path ∈ paths ↔ path ∈ others) (document : Document) :
    paths.foldl (fun rest path => rest.without path) document =
      others.foldl (fun rest path => rest.without path) document := by
  rw [← removeAll_of_subset (fun path there => (same path).2 there) document, removeAll_comm,
    removeAll_of_subset (fun path there => (same path).1 there)]

end Removals

end Document

end DocumentQuery
