import DocumentQuery.Proofs.Store.Operations

/-! Refused insertions. A batch that is refused leaves the documents of all collections as they
are. Its own collection is made before the batch is looked at, though, and is there afterwards:
a store that lacked it comes out with an empty collection more, which it lists and which can be
dropped.
-/

set_option autoImplicit false

namespace DocumentQuery

namespace SortedMap

variable {κ α : Type} [Ord κ] [Std.TransOrd κ] [Std.LawfulEqOrd κ]

theorem insert_eq_self {map : SortedMap κ α} {key : κ} {value : α}
    (found : map.get? key = some value) : map.insert key value = map := by
  obtain ⟨entries, ascending⟩ := map
  apply SortedMap.ext
  simp only [get?, insert] at found ⊢
  induction entries with
  | nil => cases found
  | cons first rest ih =>
    obtain ⟨other, old⟩ := first
    obtain ⟨above, ascending⟩ := List.pairwise_cons.1 ascending
    rw [List.find?_cons] at found
    rw [insertEntry]
    cases place : compare key other with
    | eq =>
      rw [place] at found
      cases found
      rw [Std.LawfulEqOrd.eq_of_compare place]
    | gt =>
      rw [place] at found
      exact congrArg (_ :: ·) (ih ascending found)
    | lt =>
      -- All keys from here on are larger, so the key would not have been found.
      rw [place] at found
      obtain ⟨entry, there, _⟩ := Option.map_eq_some_iff.1 found
      have equal : compare key entry.1 = .eq := by simpa using List.find?_some there
      have below := above entry (List.mem_of_find?_eq_some there)
      rw [← Std.LawfulEqOrd.eq_of_compare equal, Std.OrientedCmp.gt_of_lt place] at below
      cases below

theorem mem_keys_iff {map : SortedMap κ α} {key : κ} :
    key ∈ map.keys ↔ (map.get? key).isSome = true := by
  constructor
  · intro listed
    obtain ⟨⟨_, value⟩, there, rfl⟩ := List.mem_map.1 listed
    rw [get?_of_mem there]
    rfl
  · intro found
    obtain ⟨value, found⟩ := Option.isSome_iff_exists.1 found
    obtain ⟨entry, there, _⟩ := Option.map_eq_some_iff.1 found
    have equal : compare key entry.1 = .eq := by simpa using List.find?_some there
    rw [Std.LawfulEqOrd.eq_of_compare equal]
    exact List.mem_map_of_mem (List.mem_of_find?_eq_some there)

end SortedMap

namespace Store

variable {store after : Store} {collection name : String}

theorem mem_listCollections_createCollection :
    name ∈ (store.createCollection collection).listCollections ↔
      name = collection ∨ name ∈ store.listCollections := by
  simp only [listCollections, SortedMap.mem_keys_iff, createCollection, withShelf,
    SortedMap.get?_insert]
  by_cases same : collection = name
  · simp [same]
  · simp [same, Ne.symm same]

theorem createCollection_eq_self (there : collection ∈ store.listCollections) :
    store.createCollection collection = store := by
  obtain ⟨documents, found⟩ := Option.isSome_iff_exists.1 (SortedMap.mem_keys_iff.1 there)
  rw [createCollection, withShelf, shelf, found]
  exact congrArg Store.mk (SortedMap.insert_eq_self found)

theorem drop_on (store : Store) (name : String) :
    ((Operation.drop name).on store).1 =
      if name ∈ store.listCollections then .ok [] else .error (.collectionNotFound name) := by
  by_cases listed : name ∈ store.listCollections
  · have found : store.collections.contains name = true := SortedMap.mem_keys_iff.1 listed
    simp only [Operation.on, dropCollection, found, listed, if_true]
  · have missing : store.collections.contains name = false :=
      Bool.eq_false_iff.2 fun found => listed (SortedMap.mem_keys_iff.2 found)
    simp only [Operation.on, dropCollection, missing, listed, Bool.false_eq_true, if_false]

theorem eq_createCollection_of_refused {documents : List Document} {error : AccessError}
    (refused : store.insert collection documents = (.error error, after)) :
    after = store.createCollection collection := by
  rw [insert] at refused
  split at refused
  · cases refused
  · cases refused
    rfl

/-- A batch that is refused, at whichever of its documents, leaves the documents of all collections
as they are; only its own collection is listed afterwards, even if it was not before. So the store
is as it was, and lists the same collections, and refuses and admits the same collections to be
dropped, exactly when the collection was there before. -/
theorem insert_refused_exactly {documents : List Document} {error : AccessError}
    (refused : store.insert collection documents = (.error error, after)) :
    (∀ other, after.shelf other = store.shelf other) ∧
      (∀ other, other ∈ after.listCollections ↔
        other = collection ∨ other ∈ store.listCollections) ∧
      (after = store ↔ collection ∈ store.listCollections) ∧
      (after.listCollections = store.listCollections ↔ collection ∈ store.listCollections) ∧
      ((∀ other, ((Operation.drop other).on after).1 = ((Operation.drop other).on store).1) ↔
        collection ∈ store.listCollections) := by
  have made := eq_createCollection_of_refused refused
  subst made
  have listed : collection ∈ (store.createCollection collection).listCollections :=
    mem_listCollections_createCollection.2 (.inl rfl)
  refine ⟨fun other => shelf_createCollection store collection other,
    fun other => mem_listCollections_createCollection, ⟨fun same => ?_, createCollection_eq_self⟩,
    ⟨fun same => ?_, fun there => ?_⟩, ⟨fun same => ?_, fun there other => ?_⟩⟩
  · rwa [same] at listed
  · rwa [same] at listed
  · rw [createCollection_eq_self there]
  · have dropped := same collection
    rw [drop_on, drop_on, if_pos listed] at dropped
    split at dropped
    · assumption
    · cases dropped
  · rw [createCollection_eq_self there]

def party : List Document :=
  [[(idKey, .objectId ⟨2⟩)], guest]

/-- The batch is refused at its second document, and the users are as they were. -/
theorem insert_refused_party :
    ((empty.insert "user" [guest]).2.insert "user" party).1 =
        .error (.documentAlreadyExists ⟨1⟩ "user") ∧
      ((empty.insert "user" [guest]).2.insert "user" party).2 =
        (empty.insert "user" [guest]).2 := by
  have refused : (empty.insert "user" [guest]).2.insert "user" party =
      (.error (.documentAlreadyExists ⟨1⟩ "user"),
        ((empty.insert "user" [guest]).2.insert "user" party).2) := rfl
  have there : "user" ∈ (empty.insert "user" [guest]).2.listCollections := List.mem_cons_self
  obtain ⟨_, _, same, _⟩ := insert_refused_exactly refused
  exact ⟨rfl, same.2 there⟩

/-- A document without an identifier is refused, and leaves a collection behind that was not there:
it is listed, and it can be dropped. -/
theorem insert_refused_leaves_user :
    ∃ after, empty.insert "user" [[("name", .string "a")]] =
        (.error (.documentWithoutId "user"), after) ∧
      empty.listCollections = [] ∧ after.listCollections = ["user"] ∧
      ((Operation.drop "user").on empty).1 = .error (.collectionNotFound "user") ∧
      ((Operation.drop "user").on after).1 = .ok [] :=
  ⟨_, rfl, rfl, rfl, rfl, rfl⟩

end Store

end DocumentQuery
