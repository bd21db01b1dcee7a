import DocumentQuery.Document.References

/-! What population is meant to do. A path is followed to the values under its last key,
and in each of them every identifier is replaced, at any depth of arrays. Two
replacements do the same to a document exactly when they agree on its identifiers.
-/

set_option autoImplicit false

namespace DocumentQuery

namespace Value

mutual

def mapIdentifiers (change : ObjectId → Value) : Value → Value
  | .objectId id => change id
  | .array items => .array (mapIdentifiersIn change items)
  | value => value

def mapIdentifiersIn (change : ObjectId → Value) : List Value → List Value
  | [] => []
  | item :: rest => mapIdentifiers change item :: mapIdentifiersIn change rest

end

mutual

def identifiers : Value → List ObjectId
  | .objectId id => [id]
  | .array items => identifiersIn items
  | _ => []

def identifiersIn : List Value → List ObjectId
  | [] => []
  | item :: rest => identifiers item ++ identifiersIn rest

end

mutual

theorem mapIdentifiers_eq_iff (change other : ObjectId → Value) (value : Value) :
    value.mapIdentifiers change = value.mapIdentifiers other ↔
      ∀ id ∈ value.identifiers, change id = other id := by
  match value with
  | .objectId id => simp [mapIdentifiers, identifiers]
  | .array items =>
    rw [mapIdentifiers, mapIdentifiers, Value.array.injEq, mapIdentifiersIn_eq_iff, identifiers]
  | .document _ | .null | .undefined | .minKey | .maxKey | .bool _ | .int32 _ | .int64 _
  | .double _ | .string _ | .date _ | .sealed _ => simp [mapIdentifiers, identifiers]

theorem mapIdentifiersIn_eq_iff (change other : ObjectId → Value) (items : List Value) :
    mapIdentifiersIn change items = mapIdentifiersIn other items ↔
      ∀ id ∈ identifiersIn items, change id = other id := by
  match items with
  | [] => simp [mapIdentifiersIn, identifiersIn]
  | item :: rest =>
    rw [mapIdentifiersIn, mapIdentifiersIn, List.cons.injEq, mapIdentifiers_eq_iff,
      mapIdentifiersIn_eq_iff, identifiersIn, List.forall_mem_append]

end

def resolved (referent? : ObjectId → Option Document) (locale : Option String) (id : ObjectId) :
    Value :=
  match referent? id with
  | some referent => inserted locale referent
  | none => .objectId id

mutual

theorem resolve_eq_mapIdentifiers (referent? : ObjectId → Option Document)
    (locale : Option String) (value : Value) :
    value.resolve referent? locale = value.mapIdentifiers (resolved referent? locale) := by
  match value with
  | .objectId id => rfl
  | .array items => rw [resolve, mapIdentifiers, resolveItems_eq_mapIdentifiersIn]
  | .document _ | .null | .undefined | .minKey | .maxKey | .bool _ | .int32 _ | .int64 _
  | .double _ | .string _ | .date _ | .sealed _ => rfl

theorem resolveItems_eq_mapIdentifiersIn (referent? : ObjectId → Option Document)
    (locale : Option String) (items : List Value) :
    resolveItems referent? locale items = mapIdentifiersIn (resolved referent? locale) items := by
  match items with
  | [] => rfl
  | item :: rest =>
    rw [resolveItems, mapIdentifiersIn, resolve_eq_mapIdentifiers,
      resolveItems_eq_mapIdentifiersIn]

end

theorem mapDocuments_eq_iff {change other : Document → Document} {value : Value} :
    value.mapDocuments change = value.mapDocuments other ↔
      ∀ document ∈ value.documents, change document = other document := by
  cases value with
  | array items =>
    simp only [mapDocuments, documents, Value.array.injEq]
    induction items with
    | nil => simp
    | cons item rest ih => cases item <;> simp [ih]
  | document fields => simp [mapDocuments, documents]
  | _ => simp [mapDocuments, documents]

end Value

namespace Document

def modifyAt (change : Value → Value) : Path → Document → Document
  | [], document => document
  | [key], document => document.modify key change
  | key :: rest, document => document.modify key (·.mapDocuments (modifyAt change rest))

def heldAt : Path → Document → List Value
  | [], _ => []
  | [key], document => (document.get? key).toList
  | key :: rest, document => (document.get? key).toList.flatMap (·.documents.flatMap (heldAt rest))

def identifiersAt (path : Path) (document : Document) : List ObjectId :=
  (document.heldAt path).flatMap Value.identifiers

theorem modifyAt_cons_cons (change : Value → Value) (key next : String) (rest : Path)
    (document : Document) :
    document.modifyAt change (key :: next :: rest) =
      document.modify key (·.mapDocuments (modifyAt change (next :: rest))) := rfl

theorem heldAt_cons_cons (key next : String) (rest : Path) (document : Document) :
    document.heldAt (key :: next :: rest) =
      (document.get? key).toList.flatMap (·.documents.flatMap (heldAt (next :: rest))) := rfl

theorem resolveAt_cons_cons (referent? : ObjectId → Option Document) (locale : Option String)
    (key next : String) (rest : Path) (document : Document) :
    document.resolveAt referent? locale (key :: next :: rest) =
      document.modify key (·.mapDocuments (resolveAt referent? locale (next :: rest))) := rfl

theorem modify_eq_iff {change other : Value → Value} {key : String} {document : Document} :
    document.modify key change = document.modify key other ↔
      ∀ value, document.get? key = some value → change value = other value := by
  induction document with
  | nil => simp [modify]
  | cons entry rest ih =>
    obtain ⟨name, value⟩ := entry
    by_cases here : name = key
    · simp [modify, get?, here]
    · simp [modify, get?, here, ih]

theorem modifyAt_eq_iff {change other : Value → Value} {path : Path} {document : Document} :
    document.modifyAt change path = document.modifyAt other path ↔
      ∀ value ∈ document.heldAt path, change value = other value := by
  induction path generalizing document with
  | nil => simp [modifyAt, heldAt]
  | cons key rest ih =>
    cases rest with
    | nil => simp [modifyAt, heldAt, modify_eq_iff]
    | cons next rest =>
      rw [modifyAt_cons_cons, modifyAt_cons_cons, modify_eq_iff, heldAt_cons_cons]
      simp only [Value.mapDocuments_eq_iff, ih, List.mem_flatMap, Option.mem_toList]
      constructor
      · rintro agree value ⟨outer, found, inner, there, held⟩
        exact agree outer found inner there value held
      · intro agree outer found inner there value held
        exact agree value ⟨outer, found, inner, there, held⟩

theorem resolveAt_eq_modifyAt (referent? : ObjectId → Option Document) (locale : Option String)
    (path : Path) (document : Document) :
    document.resolveAt referent? locale path =
      document.modifyAt (·.mapIdentifiers (Value.resolved referent? locale)) path := by
  induction path generalizing document with
  | nil => rfl
  | cons key rest ih =>
    cases rest with
    | nil =>
      rw [resolveAt, modifyAt]
      exact modify_eq_iff.2 fun value _ => Value.resolve_eq_mapIdentifiers referent? locale value
    | cons next rest =>
      rw [resolveAt_cons_cons, modifyAt_cons_cons]
      exact modify_eq_iff.2 fun value _ => Value.mapDocuments_eq_iff.2 fun inner _ => ih inner

/-- Two sources of referents populate a document alike when they agree on its identifiers. -/
theorem resolveAt_eq_iff {referent? other? : ObjectId → Option Document} {locale : Option String}
    {path : Path} {document : Document} :
    document.resolveAt referent? locale path = document.resolveAt other? locale path ↔
      ∀ id ∈ document.identifiersAt path,
        Value.resolved referent? locale id = Value.resolved other? locale id := by
  rw [resolveAt_eq_modifyAt, resolveAt_eq_modifyAt, modifyAt_eq_iff, identifiersAt]
  simp only [Value.mapIdentifiers_eq_iff, List.mem_flatMap]
  constructor
  · rintro agree id ⟨value, held, there⟩
    exact agree value held id there
  · intro agree value held id there
    exact agree id ⟨value, held, there⟩

end Document

end DocumentQuery
