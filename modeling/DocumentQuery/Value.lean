import DocumentQuery.Calendar.Timestamp
import DocumentQuery.Number.Binary64
import DocumentQuery.ObjectId
import DocumentQuery.Value.Sealed

/-! Weakly typed documents: values, and documents as ordered lists of keys with
values. A key is looked up at its first entry; setting a present key keeps its
place, so a document built by setting keys one by one holds each key once.
-/

set_option autoImplicit false

namespace DocumentQuery

inductive Value where
  | null
  | undefined
  | minKey
  | maxKey
  | bool (value : Bool)
  | int32 (value : Int32)
  | int64 (value : Int64)
  | double (value : Binary64)
  | string (value : String)
  | date (value : Timestamp)
  | objectId (value : ObjectId)
  | sealed (value : Sealed)
  | array (items : List Value)
  | document (fields : List (String × Value))

/-- An ordered list of keys with values. -/
abbrev Document := List (String × Value)

def idKey : String := "_id"

namespace Document

def get? : Document → String → Option Value
  | [], _ => none
  | (name, value) :: rest, key => if name = key then some value else get? rest key

def hasKey (document : Document) (key : String) : Bool :=
  (document.get? key).isSome

/-- Sets a key: in its place when present, at the end otherwise. -/
def set (key : String) (value : Value) : Document → Document
  | [] => [(key, value)]
  | (name, old) :: rest =>
    if name = key then (name, value) :: rest else (name, old) :: set key value rest

def erase (key : String) (document : Document) : Document :=
  document.filter (·.1 ≠ key)

def modify (key : String) (change : Value → Value) : Document → Document
  | [] => []
  | (name, value) :: rest =>
    if name = key then (name, change value) :: rest else (name, value) :: modify key change rest

def ofPairs (pairs : List (String × Value)) : Document :=
  pairs.foldl (fun document (key, value) => set key value document) []

def id? (document : Document) : Option ObjectId :=
  match document.get? idKey with
  | some (.objectId id) => some id
  | _ => none

@[simp] theorem get?_nil (key : String) : get? [] key = none := rfl

theorem get?_set (document : Document) (key other : String) (value : Value) :
    (document.set key value).get? other =
      if key = other then some value else document.get? other := by
  induction document with
  | nil => simp [set, get?]
  | cons entry rest ih =>
    obtain ⟨name, old⟩ := entry
    by_cases here : name = key
    · subst here
      by_cases same : name = other <;> simp [set, get?, same]
    · by_cases same : key = other
      · subst same
        simp [set, get?, here, ih]
      · simp [set, get?, here, ih, same]

theorem get?_erase (document : Document) (key other : String) :
    (document.erase key).get? other = if key = other then none else document.get? other := by
  induction document with
  | nil => simp [erase]
  | cons entry rest ih =>
    obtain ⟨name, old⟩ := entry
    simp only [erase] at ih ⊢
    by_cases here : name = key
    · subst here
      by_cases same : name = other <;> simp_all [get?]
    · by_cases same : key = other
      · subst same
        simp_all [get?]
      · simp_all [get?]

theorem get?_modify (document : Document) (key other : String) (change : Value → Value) :
    (document.modify key change).get? other =
      if key = other then (document.get? other).map change else document.get? other := by
  induction document with
  | nil => simp [modify]
  | cons entry rest ih =>
    obtain ⟨name, old⟩ := entry
    by_cases here : name = key
    · subst here
      by_cases same : name = other <;> simp [modify, get?, same]
    · by_cases same : key = other
      · subst same
        simp [modify, get?, here, ih]
      · simp [modify, get?, here, ih, same]

end Document

namespace Value

/-- The documents that a value offers to a path: itself, or the elements of an array. -/
def documents : Value → List Document
  | .document fields => [fields]
  | .array items => items.filterMap fun
    | .document fields => some fields
    | _ => none
  | _ => []

/-- Changes the documents that a value offers to a path, in their places. -/
def mapDocuments (change : Document → Document) : Value → Value
  | .document fields => .document (change fields)
  | .array items => .array <| items.map fun
    | .document fields => .document (change fields)
    | item => item
  | value => value

theorem documents_mapDocuments (change : Document → Document) (value : Value) :
    (value.mapDocuments change).documents = value.documents.map change := by
  cases value with
  | array items =>
    simp only [mapDocuments, documents, List.filterMap_map, List.map_filterMap]
    congr 1
    funext item
    cases item <;> rfl
  | _ => rfl

end Value

end DocumentQuery
