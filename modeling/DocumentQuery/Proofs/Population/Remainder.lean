import DocumentQuery.Proofs.Population.Meaning

/-! What a resolution leaves. The values under the last key of a path stay where they are, each
resolved by itself. So the identifiers that are left at the path are those without a referent, in
the order they had, and this holds for those that are found as references as well.
-/

set_option autoImplicit false

namespace DocumentQuery

namespace Value

variable (referent? : ObjectId → Option Document) (locale : Option String)

/-- An identifier is left in its place unless it has a referent, and this holds none itself. -/
theorem identifiers_resolved (id : ObjectId) :
    (resolved referent? locale id).identifiers = [id].filter fun id => (referent? id).isNone := by
  rw [resolved]
  cases found : referent? id with
  | none => simp [identifiers, found]
  | some referent => simp [inserted, identifiers, found]

mutual

theorem identifiers_mapIdentifiers (value : Value) :
    (value.mapIdentifiers (resolved referent? locale)).identifiers =
      value.identifiers.filter fun id => (referent? id).isNone := by
  match value with
  | .objectId id => exact identifiers_resolved referent? locale id
  | .array items => exact identifiersIn_mapIdentifiersIn items
  | .document _ | .null | .undefined | .minKey | .maxKey | .bool _ | .int32 _ | .int64 _
  | .double _ | .string _ | .date _ | .sealed _ => rfl

theorem identifiersIn_mapIdentifiersIn (items : List Value) :
    identifiersIn (mapIdentifiersIn (resolved referent? locale) items) =
      (identifiersIn items).filter fun id => (referent? id).isNone := by
  match items with
  | [] => rfl
  | item :: rest =>
    rw [mapIdentifiersIn, identifiersIn, identifiersIn, List.filter_append,
      identifiers_mapIdentifiers item, identifiersIn_mapIdentifiersIn rest]

end

/-- An array offers the identifiers among its elements, and resolving them leaves its arrays
arrays. -/
theorem references_mapIdentifiers (value : Value) :
    (value.mapIdentifiers (resolved referent? locale)).references =
      value.references.filter fun id => (referent? id).isNone := by
  cases value with
  | objectId id =>
    rw [mapIdentifiers, resolved]
    cases found : referent? id with
    | none => simp [references, found]
    | some referent => simp [inserted, references, found]
  | array items =>
    rw [mapIdentifiers, references, references]
    induction items with
    | nil => rfl
    | cons item rest ih =>
      rw [mapIdentifiersIn, List.filterMap_cons, List.filterMap_cons, ih]
      cases item with
      | objectId id =>
        rw [mapIdentifiers, resolved]
        cases found : referent? id with
        | none => simp [found]
        | some referent => simp [inserted, found]
      | _ => rfl
  | _ => rfl

end Value

namespace Document

theorem heldAt_modifyAt (change : Value → Value) (path : Path) (document : Document) :
    (document.modifyAt change path).heldAt path = (document.heldAt path).map change := by
  induction path generalizing document with
  | nil => rfl
  | cons key rest ih =>
    cases rest with
    | nil =>
      rw [modifyAt, heldAt, heldAt, get?_modify, if_pos rfl]
      cases document.get? key <;> rfl
    | cons next rest =>
      rw [modifyAt_cons_cons, heldAt_cons_cons, heldAt_cons_cons, get?_modify, if_pos rfl]
      cases document.get? key with
      | none => rfl
      | some value =>
        simp only [Option.map_some, Option.toList_some, List.flatMap_singleton,
          Value.documents_mapDocuments, List.flatMap_map, List.map_flatMap, ih]

theorem referencesAt_eq (path : Path) (document : Document) :
    document.referencesAt path = (document.heldAt path).flatMap Value.references := by
  induction path generalizing document with
  | nil => rfl
  | cons key rest ih =>
    cases rest with
    | nil =>
      rw [referencesAt, heldAt]
      cases document.get? key <;> simp
    | cons next rest =>
      rw [referencesAt.eq_3 _ _ _ (by simp), heldAt_cons_cons]
      cases document.get? key with
      | none => rfl
      | some value =>
        rw [Option.toList_some, List.flatMap_singleton, List.flatMap_assoc]
        exact congrArg (value.documents.flatMap ·) (funext ih)

section Resolution

variable (referent? : ObjectId → Option Document) (locale : Option String) (path : Path)
  (document : Document)

theorem identifiersAt_resolveAt :
    (document.resolveAt referent? locale path).identifiersAt path =
      (document.identifiersAt path).filter fun id => (referent? id).isNone := by
  rw [resolveAt_eq_modifyAt, identifiersAt, identifiersAt, heldAt_modifyAt, List.flatMap_map,
    List.filter_flatMap]
  exact congrArg ((document.heldAt path).flatMap ·)
    (funext (Value.identifiers_mapIdentifiers referent? locale))

theorem referencesAt_resolveAt :
    (document.resolveAt referent? locale path).referencesAt path =
      (document.referencesAt path).filter fun id => (referent? id).isNone := by
  rw [resolveAt_eq_modifyAt, referencesAt_eq, referencesAt_eq, heldAt_modifyAt, List.flatMap_map,
    List.filter_flatMap]
  exact congrArg ((document.heldAt path).flatMap ·)
    (funext (Value.references_mapIdentifiers referent? locale))

end Resolution

end Document

end DocumentQuery
