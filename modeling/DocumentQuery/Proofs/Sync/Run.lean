import DocumentQuery.Proofs.Journal.Recorded
import DocumentQuery.Proofs.Schema.Registered
import DocumentQuery.Service

/-! Runs of insertions and deletions. A run keeps a log of its deletions; whatever is
inserted and deleted, the journal holds an entry of the latest deletion of every
identifier in the log, since a later deletion replaces the entry of an earlier one and
an insertion never replaces anything.
-/

set_option autoImplicit false

namespace DocumentQuery

structure Deletion where
  collection : String
  id : ObjectId
  time : Timestamp
  deriving DecidableEq, Repr

/-- The latest deletion of an identifier in a log, which has the last deletion first. -/
def Deletion.latest? (log : List Deletion) (id : ObjectId) : Option Deletion :=
  log.find? (·.id = id)

/-- The states that a service on the store in memory comes to by insertions and deletions that
succeed, with the log of the deletions. It may start with any documents, and each step may come at
any time. -/
inductive Service.Run (registry : Registry) (settings : Settings) : Store → List Deletion → Prop
  | start (store : Store) : Run registry settings store []
  | insert {store after : Store} {log : List Deletion} {name : String} {now : Timestamp}
      {fresh : Nat → ObjectId} {documents : List Document} {ids : List ObjectId} :
      Run registry settings store log →
      (Service.insert ⟨Store.backend, registry, settings⟩ name now fresh documents).on store =
        (.ok ids, after) → Run registry settings after log
  | delete {store after : Store} {log : List Deletion} {name : String} {now : Timestamp}
      {collection : Collection Store} {ids : List ObjectId} :
      Run registry settings store log →
      Service.collection ⟨Store.backend, registry, settings⟩ name = .ok collection →
      (collection.delete now ids).on store = (.ok (), after) →
      Run registry settings after (ids.map (⟨name, ·, now⟩) ++ log)
  | deleteById {store after : Store} {log : List Deletion} {name text : String} {now : Timestamp}
      {id : ObjectId} :
      Run registry settings store log → ObjectId.read? text = some id →
      (Service.deleteById ⟨Store.backend, registry, settings⟩ name text now).on store =
        (.ok (), after) → Run registry settings after (⟨name, id, now⟩ :: log)

/-- The journal holds an entry of the latest deletion of every identifier in the log. -/
def Store.Journals (store : Store) (journal : String) (log : List Deletion) : Prop :=
  ∀ id deletion, Deletion.latest? log id = some deletion →
    (store.shelf journal).get? id = some (Journal.entry deletion.collection deletion.time id)

namespace Deletion

theorem latest?_batch (name : String) (now : Timestamp) (ids : List ObjectId)
    (log : List Deletion) (id : ObjectId) :
    latest? (ids.map (⟨name, ·, now⟩) ++ log) id =
      if id ∈ ids then some ⟨name, id, now⟩ else latest? log id := by
  induction ids with
  | nil => simp
  | cons first rest ih =>
    simp only [latest?] at ih ⊢
    rw [List.map_cons, List.cons_append, List.find?_cons]
    by_cases same : first = id
    · simp [same]
    · simp only [same, decide_false, ih, List.mem_cons, Ne.symm same, false_or]

end Deletion

namespace Store

variable {store after : Store} {journal : String} {log : List Deletion}

theorem get?_insert_ok {collection : String} {documents : List Document}
    (inserted : store.insert collection documents = (.ok (), after)) {other : String}
    {id : ObjectId} {document : Document} (found : (store.shelf other).get? id = some document) :
    (after.shelf other).get? id = some document := by
  obtain ⟨shelf, all, rfl⟩ := insert_ok_iff.1 inserted
  rw [shelf_withShelf]
  split
  · rename_i same
    exact (get?_insertAll all id document).2 (.inl (same ▸ found))
  · exact found

theorem Journals.insert {collection : String} {documents : List Document}
    (journals : store.Journals journal log)
    (inserted : store.insert collection documents = (.ok (), after)) :
    after.Journals journal log :=
  fun id deletion latest => get?_insert_ok inserted (journals id deletion latest)

theorem Journals.delete {schema : Schema} {now : Timestamp} {ids : List ObjectId}
    (journals : store.Journals journal log)
    (deleted : ((⟨schema, Store.backend, journal⟩ : Collection Store).delete now ids).on store =
      (.ok (), after)) :
    after.Journals journal (ids.map (⟨schema.name, ·, now⟩) ++ log) := by
  intro id deletion latest
  rw [Deletion.latest?_batch] at latest
  rw [Collection.get?_of_deleted deleted]
  by_cases there : id ∈ ids
  · rw [if_pos there] at latest
    cases latest
    simp [there]
  · rw [if_neg there] at latest
    simp only [there, and_false, if_false]
    exact journals id deletion latest

end Store

theorem Collection.insert_on_ok {schema : Schema} {journal : String} {store after : Store}
    {now : Timestamp} {fresh : Nat → ObjectId} {documents : List Document} {ids : List ObjectId} :
    ((⟨schema, Store.backend, journal⟩ : Collection Store).insert now fresh documents).on store =
        (.ok ids, after) ↔
      ∃ prepared, prepare schema now fresh 0 documents = .ok (ids, prepared) ∧
        store.insert schema.name prepared = (.ok (), after) := by
  rw [insert, Action.on_bind_ok]
  constructor
  · rintro ⟨⟨_, prepared⟩, _, same, run⟩
    obtain ⟨_, last, inserted, same'⟩ := Action.on_bind_ok.1 run
    cases same'
    rw [Action.on_lift, Prod.mk.injEq] at same
    obtain ⟨ready, rfl⟩ := same
    exact ⟨prepared, ready, inserted⟩
  · rintro ⟨prepared, ready, inserted⟩
    exact ⟨(ids, prepared), store, by rw [Action.on_lift, ready],
      Action.on_bind_ok.2 ⟨(), after, inserted, rfl⟩⟩

namespace Service

variable {registry : Registry} {settings : Settings} {store after : Store}

theorem collection_ok {σ : Type} {service : Service σ} {name : String}
    {collection : Collection σ} :
    service.collection name = .ok collection ↔
      ∃ schema, service.registry.get? name = some schema ∧
        collection = ⟨schema, service.backend, service.settings.journalCollection⟩ := by
  rw [Service.collection, Registry.schema]
  cases service.registry.get? name with
  | none => simp [bind, Except.bind]
  | some schema => simp [bind, Except.bind, pure, Except.pure, eq_comm]

theorem insert_ok {name : String} {now : Timestamp} {fresh : Nat → ObjectId}
    {documents : List Document} {ids : List ObjectId}
    (run : (Service.insert ⟨Store.backend, registry, settings⟩ name now fresh documents).on store =
      (.ok ids, after)) :
    ∃ schema prepared, registry.get? name = some schema ∧
      Collection.prepare schema now fresh 0 documents = .ok (ids, prepared) ∧
      store.insert schema.name prepared = (.ok (), after) := by
  obtain ⟨collection, _, found, run⟩ := Action.on_bind_ok.1 run
  rw [Action.on_lift, Prod.mk.injEq] at found
  obtain ⟨found, rfl⟩ := found
  obtain ⟨schema, known, rfl⟩ := collection_ok.1 found
  obtain ⟨prepared, ready, inserted⟩ := Collection.insert_on_ok.1 run
  exact ⟨schema, prepared, known, ready, inserted⟩

theorem deleteById_eq {σ : Type} {service : Service σ} {name text : String} {schema : Schema}
    {id : ObjectId} (known : service.registry.get? name = some schema)
    (read : ObjectId.read? text = some id) (now : Timestamp) :
    let collection : Collection σ :=
      ⟨schema, service.backend, service.settings.journalCollection⟩
    service.deleteById name text now = collection.get [id] none >>= fun found =>
      if found.isEmpty then throw (.resourceNotFound text name)
      else collection.delete now [id] := by
  rw [deleteById, readId, read, Service.collection, Registry.schema_ok.2 known]
  rfl

/-- The deletion of one document fails and leaves the store as it is, or deletes a document that is
stored. -/
theorem deleteById_cases (registry : Registry) (settings : Settings) (name text : String)
    (now : Timestamp) (store : Store) :
    (∃ error, (Service.deleteById ⟨Store.backend, registry, settings⟩ name text now).on store =
        (.error error, store) ∧
      ∀ id schema, ObjectId.read? text = some id → registry.get? name = some schema →
        (store.shelf schema.name).get? id = none) ∨
    ∃ id schema document, ObjectId.read? text = some id ∧ registry.get? name = some schema ∧
      (store.shelf schema.name).get? id = some document ∧
      (Service.deleteById ⟨Store.backend, registry, settings⟩ name text now).on store =
        ((⟨schema, Store.backend, settings.journalCollection⟩ : Collection Store).delete now
          [id]).on store := by
  cases read : ObjectId.read? text with
  | none =>
    refine .inl ⟨.invalidReference text, ?_, fun id _ same => by cases same⟩
    rw [deleteById, readId, read]
    rfl
  | some id =>
    cases known : registry.get? name with
    | none =>
      refine .inl ⟨.collectionNotFound name, ?_, fun _ schema _ same => by cases same⟩
      rw [deleteById, readId, read, Service.collection, Registry.schema, known]
      rfl
    | some schema =>
      let collection : Collection Store := ⟨schema, Store.backend, settings.journalCollection⟩
      have got : (collection.get [id] none).on store =
          (.ok (store.get schema.name [id] none), store) := rfl
      rw [deleteById_eq known read, Action.on_bind, got]
      cases found : (store.shelf schema.name).get? id with
      | none =>
        refine .inl ⟨.resourceNotFound text name, ?_, fun own other same same' => ?_⟩
        · simp [Store.get, found]
        · cases same
          cases same'
          exact found
      | some document =>
        refine .inr ⟨id, schema, document, rfl, rfl, found, ?_⟩
        simp [Store.get, found]

theorem deleteById_ok {name text : String} {now : Timestamp} {id : ObjectId}
    (read : ObjectId.read? text = some id)
    (run : (Service.deleteById ⟨Store.backend, registry, settings⟩ name text now).on store =
      (.ok (), after)) :
    ∃ collection, Service.collection ⟨Store.backend, registry, settings⟩ name = .ok collection ∧
      (collection.delete now [id]).on store = (.ok (), after) := by
  rcases deleteById_cases registry settings name text now store with
    ⟨error, failed, _⟩ | ⟨own, schema, document, read', known, _, deletes⟩
  · rw [failed] at run
    cases run
  · rw [read] at read'
    cases read'
    exact ⟨_, collection_ok.2 ⟨schema, known, rfl⟩, deletes.symm.trans run⟩

theorem Run.deleting {schema : Schema} {name : String} {log : List Deletion}
    (run : Run registry settings store log) (known : registry.get? name = some schema)
    (now : Timestamp) (ids : List ObjectId) :
    Run registry settings (((⟨schema, Store.backend, settings.journalCollection⟩ :
      Collection Store).delete now ids).on store).2 (ids.map (⟨name, ·, now⟩) ++ log) := by
  obtain ⟨after, deleted, _⟩ :=
    Collection.delete_on schema settings.journalCollection store now ids
  rw [deleted]
  exact .delete run (collection_ok.2 ⟨schema, known, rfl⟩) deleted

theorem journals_delete {log : List Deletion} {name : String} {now : Timestamp}
    {collection : Collection Store} {ids : List ObjectId} (built : registry.Built)
    (journals : store.Journals settings.journalCollection log)
    (found : Service.collection ⟨Store.backend, registry, settings⟩ name = .ok collection)
    (deleted : (collection.delete now ids).on store = (.ok (), after)) :
    after.Journals settings.journalCollection (ids.map (⟨name, ·, now⟩) ++ log) := by
  obtain ⟨schema, known, rfl⟩ := collection_ok.1 found
  have named := (built.get? known).2
  subst named
  exact Store.Journals.delete journals deleted

/-- Throughout a run, the journal holds an entry of the latest deletion of every identifier. -/
theorem Run.journals {log : List Deletion} (built : registry.Built)
    (run : Run registry settings store log) :
    store.Journals settings.journalCollection log := by
  induction run with
  | start store => exact fun id deletion latest => nomatch latest
  | insert _ inserted ih =>
    obtain ⟨_, _, _, _, inserted⟩ := insert_ok inserted
    exact ih.insert inserted
  | delete _ found deleted ih => exact journals_delete built ih found deleted
  | deleteById _ read deleted ih =>
    obtain ⟨collection, found, deleted⟩ := deleteById_ok read deleted
    exact journals_delete built ih found deleted

end Service

end DocumentQuery
