import DocumentQuery.Proofs.Sync.Run

/-! Histories of insertions and deletions. A history holds the changes of a service, the last
one first. It tells what the journal says of an identifier, which is its last deletion, and
whether the identifier came to life again, which takes an insertion after this deletion. The
journal itself does not change when a document is inserted again.
-/

set_option autoImplicit false

namespace DocumentQuery

inductive Change where
  | insertion (collection : String) (id : ObjectId)
  | deletion (deletion : Deletion)
  deriving DecidableEq, Repr

namespace Change

def deletion? : Change → Option Deletion
  | .insertion _ _ => none
  | .deletion deleted => some deleted

def deletes (id : ObjectId) (change : Change) : Bool :=
  change.deletion?.any (·.id = id)

def deletions (changes : List Change) : List Deletion :=
  changes.filterMap deletion?

/-- The changes after the last deletion of an identifier. -/
def afterDeletion (changes : List Change) (id : ObjectId) : List Change :=
  changes.takeWhile (! ·.deletes id)

theorem deletions_insertions (name : String) (ids : List ObjectId) (changes : List Change) :
    deletions (ids.map (.insertion name ·) ++ changes) = deletions changes := by
  induction ids with
  | nil => rfl
  | cons id rest ih => exact ih

theorem deletions_batch (name : String) (now : Timestamp) (ids : List ObjectId)
    (changes : List Change) :
    deletions (ids.map (.deletion ⟨name, ·, now⟩) ++ changes) =
      ids.map (⟨name, ·, now⟩) ++ deletions changes := by
  induction ids with
  | nil => rfl
  | cons id rest ih => exact congrArg (_ :: ·) ih

@[simp] theorem deletes_insertion (name : String) (id other : ObjectId) :
    (insertion name other).deletes id = false := rfl

@[simp] theorem deletes_deletion (deleted : Deletion) (id : ObjectId) :
    (deletion deleted).deletes id = decide (deleted.id = id) := rfl

theorem mem_afterDeletion_insertions {name other : String} {ids : List ObjectId}
    {changes : List Change} {id : ObjectId} :
    .insertion other id ∈ afterDeletion (ids.map (.insertion name ·) ++ changes) id ↔
      (name = other ∧ id ∈ ids) ∨ .insertion other id ∈ afterDeletion changes id := by
  have kept : afterDeletion (ids.map (.insertion name ·) ++ changes) id =
      ids.map (.insertion name ·) ++ afterDeletion changes id :=
    List.takeWhile_append_of_pos (by simp)
  rw [kept, List.mem_append, List.mem_map]
  simp only [insertion.injEq]
  grind

theorem mem_afterDeletion_batch {name other : String} {now : Timestamp} {ids : List ObjectId}
    {changes : List Change} {id : ObjectId} :
    .insertion other id ∈ afterDeletion (ids.map (.deletion ⟨name, ·, now⟩) ++ changes) id ↔
      id ∉ ids ∧ .insertion other id ∈ afterDeletion changes id := by
  induction ids with
  | nil => simp
  | cons first rest ih =>
    rw [afterDeletion] at ih
    rw [List.map_cons, List.cons_append, afterDeletion, List.takeWhile_cons]
    by_cases same : first = id
    · simp [same]
    · simp [same, Ne.symm same, ih]

/-- The last deletion of an identifier was through a collection, and a document with this identifier
was inserted into the collection since. -/
def Recreates (changes : List Change) (name : String) (id : ObjectId) (time : Timestamp) : Prop :=
  Deletion.latest? (deletions changes) id = some ⟨name, id, time⟩ ∧
    .insertion name id ∈ afterDeletion changes id

/-- An identifier was never deleted, and a document with it was inserted into the journal. -/
def Plants (changes : List Change) (journal : String) (id : ObjectId) : Prop :=
  Deletion.latest? (deletions changes) id = none ∧ .insertion journal id ∈ changes

end Change

/-- The states that a service on the store in memory comes to by insertions and deletions that
succeed, from any state in which nothing is journaled, with the history of these changes. -/
inductive Service.History (registry : Registry) (settings : Settings) :
    Store → List Change → Prop
  | start {store : Store} : store.Reachable →
      (store.shelf settings.journalCollection).values = [] → History registry settings store []
  | insert {store after : Store} {changes : List Change} {name : String} {now : Timestamp}
      {fresh : Nat → ObjectId} {documents : List Document} {ids : List ObjectId} :
      History registry settings store changes →
      (Service.insert ⟨Store.backend, registry, settings⟩ name now fresh documents).on store =
        (.ok ids, after) →
      History registry settings after (ids.map (.insertion name ·) ++ changes)
  | delete {store after : Store} {changes : List Change} {name : String} {now : Timestamp}
      {collection : Collection Store} {ids : List ObjectId} :
      History registry settings store changes →
      Service.collection ⟨Store.backend, registry, settings⟩ name = .ok collection →
      (collection.delete now ids).on store = (.ok (), after) →
      History registry settings after (ids.map (.deletion ⟨name, ·, now⟩) ++ changes)
  | deleteById {store after : Store} {changes : List Change} {name text : String}
      {now : Timestamp} {id : ObjectId} :
      History registry settings store changes → ObjectId.read? text = some id →
      (Service.deleteById ⟨Store.backend, registry, settings⟩ name text now).on store =
        (.ok (), after) →
      History registry settings after (.deletion ⟨name, id, now⟩ :: changes)

structure Store.Follows (store : Store) (journal : String) (changes : List Change) : Prop where
  keyed : store.Keyed
  /-- The journal has the last deletion of each identifier. -/
  journals : store.Journals journal (Change.deletions changes)
  /-- Whatever else is in the journal was inserted there. -/
  planted : ∀ id entry, Deletion.latest? (Change.deletions changes) id = none →
    (store.shelf journal).get? id = some entry → .insertion journal id ∈ changes
  /-- What was deleted is stored exactly when it was inserted again. -/
  live : ∀ id deletion, Deletion.latest? (Change.deletions changes) id = some deletion →
    deletion.collection ≠ journal →
      (((store.shelf deletion.collection).get? id).isSome = true ↔
        .insertion deletion.collection id ∈ Change.afterDeletion changes id)

namespace Collection

theorem id?_stamp (schema : Schema) (now : Timestamp) (document : Document) {key : String}
    (other : key ≠ idKey) : (stamp schema now document key).id? = document.id? := by
  rw [stamp]
  split
  · rw [Document.id?, Document.id?, Document.get?_set, if_neg other]
  · rfl

theorem id?_stampAll (schema : Schema) (now : Timestamp) (document : Document) :
    (stampAll schema now document).id? = document.id? := by
  have created : "created" ≠ idKey := by decide
  have updated : "updated" ≠ idKey := by decide
  rw [stampAll, id?_stamp schema now _ updated, id?_stamp schema now document created]

/-- The first document of a batch is prepared with the identifier that is announced first, and with
what it has under other keys. -/
theorem prepare_cons_ok {schema : Schema} {now : Timestamp} {fresh : Nat → ObjectId} {used : Nat}
    {document : Document} {rest prepared : List Document} {ids : List ObjectId}
    (ready : prepare schema now fresh used (document :: rest) = .ok (ids, prepared)) :
    ∃ id named next others more, named.id? = some id ∧
      (∀ key, key ≠ idKey → Document.get? named key = document.get? key) ∧
      prepare schema now fresh next rest = .ok (others, more) ∧
      ids = id :: others ∧ prepared = stampAll schema now named :: more := by
  rw [prepare] at ready
  split at ready
  · rename_i id found
    obtain ⟨_, chosen, ready⟩ := ok_of_bind ready
    cases chosen
    obtain ⟨⟨others, more⟩, later, same⟩ := ok_of_bind ready
    cases same
    exact ⟨id, document, used, others, more, by rw [Document.id?, found], fun _ _ => rfl, later,
      rfl, rfl⟩
  · cases ready
  · obtain ⟨_, chosen, ready⟩ := ok_of_bind ready
    cases chosen
    obtain ⟨⟨others, more⟩, later, same⟩ := ok_of_bind ready
    cases same
    have named : (document.set idKey (.objectId (fresh used))).id? = some (fresh used) := by
      rw [Document.id?, Document.get?_set, if_pos rfl]
    refine ⟨fresh used, _, used + 1, others, more, named, fun key other => ?_, later, rfl, rfl⟩
    rw [Document.get?_set, if_neg other.symm]

theorem ids_of_prepare {schema : Schema} {now : Timestamp} {fresh : Nat → ObjectId} {used : Nat}
    {documents prepared : List Document} {ids : List ObjectId}
    (ready : prepare schema now fresh used documents = .ok (ids, prepared)) :
    prepared.map Document.id? = ids.map some := by
  induction documents generalizing used ids prepared with
  | nil =>
    cases ready
    rfl
  | cons document rest ih =>
    obtain ⟨id, named, next, others, more, own, _, later, rfl, rfl⟩ := prepare_cons_ok ready
    rw [List.map_cons, List.map_cons, id?_stampAll, own, ih later]

end Collection

namespace Store

variable {store after : Store} {journal : String} {changes : List Change}

theorem isSome_get?_insert {name other : String} {prepared : List Document} {ids : List ObjectId}
    (inserted : store.insert name prepared = (.ok (), after))
    (named : prepared.map Document.id? = ids.map some) {id : ObjectId} :
    ((after.shelf other).get? id).isSome = true ↔
      (name = other ∧ id ∈ ids) ∨ ((store.shelf other).get? id).isSome = true := by
  obtain ⟨shelf, all, rfl⟩ := insert_ok_iff.1 inserted
  have batch : (∃ document ∈ prepared, document.id? = some id) ↔ id ∈ ids := by
    rw [← List.mem_map, named, List.mem_map]
    simp
  rw [shelf_withShelf]
  by_cases here : name = other
  · subst here
    rw [if_pos rfl, Option.isSome_iff_exists, Option.isSome_iff_exists]
    simp only [get?_insertAll all, exists_or, batch]
    grind
  · simp [here]

theorem Follows.insert {name : String} {prepared : List Document} {ids : List ObjectId}
    (follows : store.Follows journal changes)
    (inserted : store.insert name prepared = (.ok (), after))
    (named : prepared.map Document.id? = ids.map some) :
    after.Follows journal (ids.map (.insertion name ·) ++ changes) := by
  refine ⟨?_, ?_, fun id entry unjournaled found => ?_, fun id deletion latest apart => ?_⟩
  · have keyed := follows.keyed.insert name prepared
    rwa [inserted] at keyed
  · rw [Change.deletions_insertions]
    exact follows.journals.insert inserted
  · rw [Change.deletions_insertions] at unjournaled
    have stored : ((after.shelf journal).get? id).isSome = true := by rw [found]; rfl
    rcases (isSome_get?_insert inserted named).1 stored with ⟨rfl, there⟩ | before
    · exact List.mem_append_left _ (List.mem_map_of_mem there)
    · obtain ⟨old, before⟩ := Option.isSome_iff_exists.1 before
      exact List.mem_append_right _ (follows.planted id old unjournaled before)
  · rw [Change.deletions_insertions] at latest
    rw [isSome_get?_insert inserted named, Change.mem_afterDeletion_insertions,
      follows.live id deletion latest apart]

theorem Follows.delete {schema : Schema} {now : Timestamp} {ids : List ObjectId}
    (follows : store.Follows journal changes)
    (deleted : ((⟨schema, Store.backend, journal⟩ : Collection Store).delete now ids).on store =
      (.ok (), after)) :
    after.Follows journal (ids.map (.deletion ⟨schema.name, ·, now⟩) ++ changes) := by
  have contents := Collection.get?_of_deleted deleted
  refine ⟨follows.keyed.of_deleted deleted, ?_, fun id entry unjournaled found => ?_,
    fun id deletion latest apart => ?_⟩
  · rw [Change.deletions_batch]
    exact follows.journals.delete deleted
  · rw [Change.deletions_batch, Deletion.latest?_batch] at unjournaled
    split at unjournaled
    · cases unjournaled
    · rename_i untouched
      simp only [contents, untouched, and_false, if_false] at found
      exact List.mem_append_right _ (follows.planted id entry unjournaled found)
  · rw [Change.deletions_batch, Deletion.latest?_batch] at latest
    rw [Change.mem_afterDeletion_batch, contents, if_neg fun both => apart both.1.symm]
    split at latest
    · -- An identifier of the batch is gone, and nothing was inserted since.
      rename_i there
      cases latest
      simp [there]
    · rename_i untouched
      simp only [untouched, and_false, if_false, not_false_eq_true, true_and]
      exact follows.live id deletion latest apart

theorem Follows.start (keyed : store.Keyed) (blank : (store.shelf journal).values = []) :
    store.Follows journal [] := by
  refine ⟨keyed, ?_, fun id entry _ found => ?_, ?_⟩
  · intro id deletion latest
    cases latest
  · have there := SortedMap.mem_values_of_get? found
    rw [blank] at there
    exact absurd there List.not_mem_nil
  · intro id deletion latest
    cases latest

end Store

namespace Service

variable {registry : Registry} {settings : Settings} {store after : Store} {changes : List Change}

theorem follows_delete {name : String} {now : Timestamp} {collection : Collection Store}
    {ids : List ObjectId} (built : registry.Built)
    (follows : store.Follows settings.journalCollection changes)
    (found : Service.collection ⟨Store.backend, registry, settings⟩ name = .ok collection)
    (deleted : (collection.delete now ids).on store = (.ok (), after)) :
    after.Follows settings.journalCollection (ids.map (.deletion ⟨name, ·, now⟩) ++ changes) := by
  obtain ⟨schema, known, rfl⟩ := collection_ok.1 found
  have named := (built.get? known).2
  subst named
  exact follows.delete deleted

/-- Throughout a history, the store is as the history tells. -/
theorem History.follows (built : registry.Built)
    (history : History registry settings store changes) :
    store.Follows settings.journalCollection changes := by
  induction history with
  | start reachable blank => exact .start reachable.keyed blank
  | insert _ run ih =>
    obtain ⟨schema, prepared, known, ready, inserted⟩ := insert_ok run
    have named := (built.get? known).2
    subst named
    exact ih.insert inserted (Collection.ids_of_prepare ready)
  | delete _ found deleted ih => exact follows_delete built ih found deleted
  | deleteById _ read deleted ih =>
    obtain ⟨collection, found, deleted⟩ := deleteById_ok read deleted
    exact follows_delete built ih found deleted

end Service

end DocumentQuery
