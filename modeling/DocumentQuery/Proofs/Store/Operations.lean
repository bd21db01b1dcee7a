import DocumentQuery.Proofs.Store.Contents

/-! Runs of a store. Each operation, whether it fails or not, changes what the store holds as
it would change a map from a collection and an identifier to a document, which says by itself
when a batch of documents is refused. A document that was inserted is therefore held until it
is deleted or its collection is dropped.
-/

set_option autoImplicit false

namespace DocumentQuery

inductive Operation where
  | insert (collection : String) (documents : List Document)
  | delete (collection : String) (ids : List ObjectId)
  | create (collection : String)
  | drop (collection : String)
  | get (collection : String) (ids : List ObjectId) (projection : Option Projection)
  | query (collection : String) (query : Query)

abbrev Contents := String → ObjectId → Option Document

/-- Each document of a batch has an identifier of its own, under which nothing is held. -/
def Admits (held : ObjectId → Option Document) (documents : List Document) : Prop :=
  (∀ document ∈ documents, (document.id?.any fun id => (held id).isNone) = true) ∧
    documents.Pairwise fun a b => a.id? ≠ b.id?

instance (held : ObjectId → Option Document) (documents : List Document) :
    Decidable (Admits held documents) :=
  inferInstanceAs (Decidable (_ ∧ _))

namespace Operation

def collection : Operation → String
  | .insert collection _ | .delete collection _ | .create collection | .drop collection
  | .get collection _ _ | .query collection _ => collection

/-- What an operation answers, with the store after it. Changes answer with no documents. -/
def on (operation : Operation) (store : Store) : Except AccessError (List Document) × Store :=
  match operation with
  | .insert collection documents =>
    ((store.insert collection documents).1.map fun _ => [],
      (store.insert collection documents).2)
  | .delete collection ids => (.ok [], store.delete collection ids)
  | .create collection => (.ok [], store.createCollection collection)
  | .drop collection =>
    match store.dropCollection collection with
    | .ok after => (.ok [], after)
    | .error error => (.error error, store)
  | .get collection ids projection => (.ok (store.get collection ids projection), store)
  | .query collection asked => (store.query collection asked, store)

def effect : Operation → Contents → Contents
  | .insert collection documents, contents => fun other id =>
    if collection = other ∧ Admits (contents collection) documents then
      (contents other id).or (documents.find? (·.id? = some id))
    else contents other id
  | .delete collection ids, contents => fun other id =>
    if collection = other ∧ id ∈ ids then none else contents other id
  | .drop collection, contents => fun other id =>
    if collection = other then none else contents other id
  | .create _, contents | .get _ _ _, contents | .query _ _, contents => contents

def removes (operation : Operation) (collection : String) (id : ObjectId) : Bool :=
  match operation with
  | .delete other ids => other = collection ∧ id ∈ ids
  | .drop other => other = collection
  | _ => false

end Operation

section Batches

theorem admits_nil (held : ObjectId → Option Document) : Admits held [] := by
  simp [Admits]

theorem admits_cons {held : ObjectId → Option Document} {document : Document}
    {rest : List Document} :
    Admits held (document :: rest) ↔
      ∃ id, document.id? = some id ∧ held id = none ∧ Admits held rest ∧
        ∀ other ∈ rest, other.id? ≠ some id := by
  simp only [Admits, List.forall_mem_cons, List.pairwise_cons]
  cases document.id? with
  | none => simp
  | some id =>
    simp only [Option.any_some, Option.isNone_iff_eq_none, Option.some.injEq, exists_eq_left']
    grind

theorem admits_insert {shelf : Shelf} {id : ObjectId} {document : Document}
    {documents : List Document} :
    Admits (shelf.insert id document).get? documents ↔
      Admits shelf.get? documents ∧ ∀ other ∈ documents, other.id? ≠ some id := by
  have each (other : Document) :
      (other.id?.any fun key => ((shelf.insert id document).get? key).isNone) = true ↔
        (other.id?.any fun key => (shelf.get? key).isNone) = true ∧ other.id? ≠ some id := by
    cases other.id? with
    | none => simp
    | some key =>
      simp only [Option.any_some, SortedMap.get?_insert, ne_eq, Option.some.injEq]
      by_cases same : id = key
      · simp [same]
      · simp [same, Ne.symm same]
  unfold Admits
  grind

end Batches

def Document.Precedes (a b : Document) : Prop :=
  ∃ first second, a.id? = some first ∧ b.id? = some second ∧ compare first second = .lt

namespace Store

def contents (store : Store) : Contents :=
  fun collection id => (store.shelf collection).get? id

def perform (store : Store) (operations : List Operation) : Store :=
  operations.foldl (fun store operation => (operation.on store).2) store

section Insertion

variable {collection : String}

/-- A batch is inserted exactly when a map would admit it. -/
theorem exists_insertAll_iff {shelf : Shelf} {documents : List Document} :
    (∃ after, insertAll collection shelf documents = .ok after) ↔
      Admits shelf.get? documents := by
  induction documents generalizing shelf with
  | nil => exact ⟨fun _ => admits_nil _, fun _ => ⟨shelf, rfl⟩⟩
  | cons document rest ih =>
    rw [admits_cons, insertAll]
    cases named : document.id? with
    | none => simp
    | some id =>
      cases taken : shelf.get? id with
      | some old => simp [SortedMap.contains, taken]
      | none =>
        have fresh : shelf.contains id = false := by rw [SortedMap.contains, taken]; rfl
        simp only [fresh, Bool.false_eq_true, if_false, ih, admits_insert]
        simp [taken]

theorem get?_insertAll_eq {shelf after : Shelf} {documents : List Document}
    (inserted : insertAll collection shelf documents = .ok after) (id : ObjectId) :
    after.get? id = (shelf.get? id).or (documents.find? (·.id? = some id)) := by
  cases old : shelf.get? id with
  | some document =>
    rw [(get?_insertAll inserted id document).2 (.inl old)]
    rfl
  | none =>
    rw [Option.none_or]
    cases found : documents.find? (·.id? = some id) with
    | some document =>
      have own : document.id? = some id := by simpa using List.find?_some found
      exact (get?_insertAll inserted id document).2 (.inr ⟨List.mem_of_find?_eq_some found, own⟩)
    | none =>
      refine Option.eq_none_iff_forall_not_mem.2 fun document held => ?_
      rcases (get?_insertAll inserted id document).1 held with earlier | ⟨there, own⟩
      · rw [old] at earlier
        cases earlier
      · simpa [own] using List.find?_eq_none.1 found document there

end Insertion

theorem shelf_on_of_ne (operation : Operation) (store : Store) {other : String}
    (apart : operation.collection ≠ other) :
    (operation.on store).2.shelf other = store.shelf other := by
  cases operation with
  | insert collection documents =>
    simp only [Operation.on, Store.insert]
    cases insertAll collection (store.shelf collection) documents with
    | error error => exact shelf_createCollection store collection other
    | ok shelf => exact (shelf_withShelf store collection other shelf).trans (if_neg apart)
  | delete collection ids =>
    simp only [Operation.on, Store.delete]
    cases store.collections.get? collection with
    | none => rfl
    | some shelf => exact (shelf_withShelf store collection other _).trans (if_neg apart)
  | create collection => exact shelf_createCollection store collection other
  | drop collection =>
    simp only [Operation.on]
    cases dropped : store.dropCollection collection with
    | error error => rfl
    | ok after => exact (shelf_dropCollection other dropped).trans (if_neg apart)
  | get collection ids projection => rfl
  | query collection query => rfl

/-- An operation changes what a store holds as it would change a map. -/
theorem contents_on (operation : Operation) (store : Store) :
    (operation.on store).2.contents = operation.effect store.contents := by
  funext other id
  by_cases here : operation.collection = other
  · subst here
    cases operation with
    | insert collection documents =>
      have admitted : (∃ shelf, insertAll collection (store.shelf collection) documents =
          .ok shelf) ↔ Admits (store.contents collection) documents := exists_insertAll_iff
      simp only [Operation.on, Operation.effect, Operation.collection, Store.insert, contents]
      cases outcome : insertAll collection (store.shelf collection) documents with
      | error error =>
        have refused : ¬ Admits (store.contents collection) documents := by
          rw [← admitted, outcome]
          rintro ⟨shelf, impossible⟩
          cases impossible
        rw [if_neg fun both => refused both.2]
        exact congrArg (·.get? id) (shelf_createCollection store collection collection)
      | ok shelf =>
        have admits := admitted.1 ⟨shelf, outcome⟩
        rw [if_pos ⟨trivial, admits⟩]
        simp only [shelf_withShelf, if_true]
        exact get?_insertAll_eq outcome id
    | delete collection ids => exact get?_shelf_delete store collection collection ids id
    | create collection =>
      exact congrArg (·.get? id) (shelf_createCollection store collection collection)
    | drop collection =>
      simp only [Operation.on, Operation.effect, Operation.collection, if_true, contents]
      cases dropped : store.dropCollection collection with
      | ok after =>
        simp only [shelf_dropCollection collection dropped, if_true]
        rfl
      | error error =>
        -- There was no such collection, so there is nothing under it to take away.
        rw [dropCollection] at dropped
        split at dropped
        · cases dropped
        · rename_i missing
          have nothing : store.collections.get? collection = none := by
            simpa [SortedMap.contains] using missing
          rw [Store.shelf, nothing]
          rfl
    | get _ _ _ | query _ _ => rfl
  · have same : (operation.on store).2.contents other id = store.contents other id :=
      congrArg (·.get? id) (shelf_on_of_ne operation store here)
    rw [same]
    cases operation with
    | insert collection documents => exact (if_neg fun both => here both.1).symm
    | delete collection ids => exact (if_neg fun both => here both.1).symm
    | drop collection => exact (if_neg here).symm
    | create _ | get _ _ _ | query _ _ => rfl

theorem contents_perform (store : Store) (operations : List Operation) :
    (store.perform operations).contents =
      operations.foldl (fun contents operation => operation.effect contents) store.contents := by
  induction operations generalizing store with
  | nil => rfl
  | cons operation rest ih =>
    rw [List.foldl_cons, ← contents_on]
    exact ih (operation.on store).2

theorem reachable_on {store : Store} (reachable : store.Reachable) (operation : Operation) :
    (operation.on store).2.Reachable := by
  cases operation with
  | insert collection documents => exact .insert collection documents reachable
  | delete collection ids => exact .delete collection ids reachable
  | create collection => exact .createCollection collection reachable
  | drop collection =>
    simp only [Operation.on]
    cases dropped : store.dropCollection collection with
    | ok after => exact .dropCollection collection reachable dropped
    | error error => exact reachable
  | get _ _ _ | query _ _ => exact reachable

theorem reachable_perform {store : Store} (reachable : store.Reachable)
    (operations : List Operation) : (store.perform operations).Reachable := by
  induction operations generalizing store with
  | nil => exact reachable
  | cons operation rest ih => exact ih (reachable_on reachable operation)

section Held

variable {store : Store} {collection : String} {id : ObjectId} {document : Document}

theorem held_on {operation : Operation} (held : store.contents collection id = some document)
    (kept : operation.removes collection id = false) :
    (operation.on store).2.contents collection id = some document := by
  rw [contents_on]
  cases operation with
  | insert other documents =>
    simp only [Operation.effect, held, Option.some_or, ite_self]
  | delete other ids =>
    simp only [Operation.removes, decide_eq_false_iff_not] at kept
    simp only [Operation.effect, if_neg kept, held]
  | drop other =>
    simp only [Operation.removes, decide_eq_false_iff_not] at kept
    simp only [Operation.effect, if_neg kept, held]
  | create _ | get _ _ _ | query _ _ => exact held

theorem held_perform {operations : List Operation}
    (held : store.contents collection id = some document)
    (kept : ∀ operation ∈ operations, operation.removes collection id = false) :
    (store.perform operations).contents collection id = some document := by
  induction operations generalizing store with
  | nil => exact held
  | cons operation rest ih =>
    exact ih (held_on held (kept operation List.mem_cons_self)) fun other there =>
      kept other (List.mem_cons_of_mem _ there)

theorem held_of_inserted {documents : List Document}
    (inserted : ((Operation.insert collection documents).on store).1 = .ok [])
    (there : document ∈ documents) (named : document.id? = some id) :
    ((Operation.insert collection documents).on store).2.contents collection id =
      some document := by
  simp only [Operation.on, Store.insert, contents] at inserted ⊢
  cases outcome : insertAll collection (store.shelf collection) documents with
  | error error =>
    rw [outcome] at inserted
    cases inserted
  | ok shelf =>
    simp only [shelf_withShelf, if_true]
    exact (get?_insertAll outcome id document).2 (.inr ⟨there, named⟩)

theorem get_eq_filterMap (store : Store) (collection : String) (ids : List ObjectId) :
    store.get collection ids none = ids.filterMap (store.contents collection) :=
  List.map_id _

theorem query_everything (store : Store) (collection : String) (populate : List Directive) :
    store.query collection { populate } = .ok (store.shelf collection).values :=
  congrArg Except.ok (List.map_id _)

theorem mem_values_iff :
    document ∈ (store.shelf collection).values ↔
      ∃ id, store.contents collection id = some document := by
  constructor
  · exact SortedMap.exists_get?_of_mem_values
  · rintro ⟨id, held⟩
    exact SortedMap.mem_values_of_get? held

theorem pairwise_precedes {shelf : Shelf}
    (own : ∀ id document, shelf.get? id = some document → document.id? = some id) :
    shelf.values.Pairwise Document.Precedes := by
  rw [SortedMap.values, List.pairwise_map]
  refine shelf.ascending.imp_of_mem fun {a b} here there below => ?_
  exact ⟨a.1, b.1, own a.1 a.2 (SortedMap.get?_of_mem here),
    own b.1 b.2 (SortedMap.get?_of_mem there), below⟩

end Held

/-- Whatever operations are performed on an empty store and fail: it holds what a map would hold,
each document under its own identifier. A document that was inserted, and neither deleted nor
dropped since, is found unchanged; no operation touches other collections than its own; and the
query that asks for nothing gives all documents of a collection, each once, by their identifiers. -/
theorem perform_refines (operations : List Operation) :
    let store := Store.empty.perform operations
    store.contents =
        operations.foldl (fun contents operation => operation.effect contents)
          (fun _ _ => none) ∧
      (∀ collection id document, store.contents collection id = some document →
        document.id? = some id) ∧
      (∀ earlier later collection documents document id,
        operations = earlier ++ .insert collection documents :: later →
        ((Operation.insert collection documents).on (Store.empty.perform earlier)).1 = .ok [] →
        document ∈ documents → document.id? = some id →
        (∀ operation ∈ later, operation.removes collection id = false) →
        ∀ front back, store.get collection (front ++ id :: back) none =
          store.get collection front none ++ document :: store.get collection back none) ∧
      (∀ (operation : Operation) (other : String), operation.collection ≠ other →
        (operation.on store).2.shelf other = store.shelf other) ∧
      (∀ collection populate, ∃ documents,
        store.query collection { populate } = .ok documents ∧
        (documents.Pairwise fun a b => ∃ first second, a.id? = some first ∧
          b.id? = some second ∧ compare first second = .lt) ∧
        ∀ document, document ∈ documents ↔ ∃ id, store.contents collection id = some document) := by
  intro store
  have keyed : store.Keyed := (reachable_perform .empty operations).keyed
  refine ⟨contents_perform empty operations, keyed, ?_, fun operation other =>
    shelf_on_of_ne operation store, fun collection populate => ?_⟩
  · rintro earlier later collection documents document id rfl inserted there named kept front back
    have held : store.contents collection id = some document := by
      have split : store = ((Operation.insert collection documents).on
          (Store.empty.perform earlier)).2.perform later := by
        simp only [store, perform, List.foldl_append, List.foldl_cons]
      rw [split]
      exact held_perform (held_of_inserted inserted there named) kept
    simp only [get_eq_filterMap, List.filterMap_append, List.filterMap_cons, held]
  · exact ⟨_, query_everything store collection populate, pairwise_precedes (keyed collection),
      fun document => mem_values_iff⟩

def guest : Document :=
  [(idKey, .objectId ⟨1⟩), ("name", .string "a")]

def visits : List Operation :=
  [.insert "user" [guest], .insert "user" [[(idKey, .objectId ⟨2⟩)], [(idKey, .objectId ⟨2⟩)]],
    .drop "post", .delete "user" [⟨2⟩]]

/-- The guest is found after operations that failed and the deletion of another identifier. -/
theorem perform_refines_visits :
    ((Operation.insert "user" [guest]).on (empty.perform [])).1 = .ok [] ∧
      guest.id? = some ⟨1⟩ ∧
      (∀ operation ∈ visits.tail, operation.removes "user" ⟨1⟩ = false) ∧
      (empty.perform visits).get "user" [⟨2⟩, ⟨1⟩] none = [guest] := by
  have inserted : ((Operation.insert "user" [guest]).on (empty.perform [])).1 = .ok [] := rfl
  have named : guest.id? = some ⟨1⟩ := rfl
  have kept : ∀ operation ∈ visits.tail, operation.removes "user" ⟨1⟩ = false := by
    simp [visits, Operation.removes]
  obtain ⟨_, _, found, _, _⟩ := perform_refines visits
  exact ⟨inserted, named, kept,
    found [] visits.tail "user" [guest] guest ⟨1⟩ rfl inserted List.mem_cons_self named kept
      [⟨2⟩] []⟩

end Store

end DocumentQuery
