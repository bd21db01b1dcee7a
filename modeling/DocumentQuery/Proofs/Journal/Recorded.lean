import DocumentQuery.Collection
import DocumentQuery.Proofs.Action
import DocumentQuery.Proofs.Expr.Verdict
import DocumentQuery.Proofs.Store.Answers

/-! The journal after deletions. On the store in memory a deletion is recorded whether
or not its identifier was journaled before, and the entry is the one of the latest
deletion; a sync request finds the entries of its collection from the bound on.
-/

set_option autoImplicit false

namespace DocumentQuery

namespace Journal

theorem id?_entry (model : String) (time : Timestamp) (id : ObjectId) :
    (entry model time id).id? = some id := rfl

/-- The second store holds an entry of the deletion of some identifiers, each in place of an earlier
one, and everything else as the first one does. -/
def Records (before after : Store) (journal model : String) (now : Timestamp)
    (ids : List ObjectId) : Prop :=
  ∀ collection id, (after.shelf collection).get? id =
    if journal = collection ∧ id ∈ ids then some (entry model now id)
    else (before.shelf collection).get? id

section Records

variable {before between after : Store} {journal model : String} {now : Timestamp}
  {ids more : List ObjectId}

theorem Records.trans (first : Records before between journal model now ids)
    (second : Records between after journal model now more) :
    Records before after journal model now (ids ++ more) := by
  intro collection id
  rw [second, first]
  by_cases here : journal = collection
  · by_cases later : id ∈ more <;> simp [here, later]
  · simp [here]

theorem records_insert (store : Store) (journal model : String) (now : Timestamp) (id : ObjectId) :
    Records store
      (store.withShelf journal ((store.shelf journal).insert id (entry model now id)))
      journal model now [id] := by
  intro collection other
  rw [Store.get?_withShelf_insert]
  by_cases same : id = other
  · simp [same]
  · simp [same, Ne.symm same]

/-- An insertion puts the entry of a deletion into a journal that has none for its identifier. -/
theorem insert_free {store : Store} {id : ObjectId} (model : String) (now : Timestamp)
    (free : (store.shelf journal).get? id = none) :
    ∃ after, store.insert journal [entry model now id] = (.ok (), after) ∧
      Records store after journal model now [id] :=
  ⟨_, Store.insert_fresh (id?_entry model now id) free, records_insert store journal model now id⟩

theorem insert_cleared (store : Store) (journal model : String) (now : Timestamp) (id : ObjectId) :
    ∃ after, (store.delete journal [id]).insert journal [entry model now id] = (.ok (), after) ∧
      Records store after journal model now [id] := by
  have cleared := Store.get?_shelf_delete store journal
  have free : ((store.delete journal [id]).shelf journal).get? id = none := by simp [cleared]
  obtain ⟨after, inserted, recorded⟩ := insert_free model now free
  refine ⟨after, inserted, fun collection other => ?_⟩
  rw [recorded, cleared]
  split <;> rfl

theorem records_createCollection {store : Store} :
    Records (store.createCollection journal) after journal model now ids ↔
      Records store after journal model now ids := by
  simp only [Records, Store.shelf_createCollection]

end Records

/-- Recording a deletion puts its entry into the journal, in place of an earlier one, and leaves
everything else as it is. -/
theorem recordOne_on (store : Store) (journal model : String) (now : Timestamp) (id : ObjectId) :
    ∃ after, (recordOne Store.backend journal model now id).on store = (.ok (), after) ∧
      Records store after journal model now [id] := by
  have inserting (before : Store) : (Store.backend.insert [entry model now id] journal).on before =
      before.insert journal [entry model now id] := rfl
  rw [recordOne, Action.on_tryCatch, inserting]
  cases taken : (store.shelf journal).get? id with
  | none =>
    obtain ⟨after, inserted, recorded⟩ := insert_free model now taken
    rw [inserted]
    exact ⟨after, rfl, recorded⟩
  | some old =>
    -- The refused insertion changed nothing, and the deletion makes room for the new entry.
    rw [Store.insert_taken (id?_entry model now id) taken]
    have deleting (before : Store) : (Store.backend.delete [id] journal).on before =
        (.ok (), before.delete journal [id]) := rfl
    obtain ⟨after, inserted, recorded⟩ :=
      insert_cleared (store.createCollection journal) journal model now id
    simp only [Action.on_bind, deleting, inserting, inserted]
    exact ⟨after, rfl, records_createCollection.1 recorded⟩

theorem record_on (store : Store) (journal model : String) (now : Timestamp)
    (ids : List ObjectId) :
    ∃ after, (record Store.backend journal model now ids).on store = (.ok (), after) ∧
      Records store after journal model now ids := by
  induction ids generalizing store with
  | nil => exact ⟨store, rfl, by simp [Records]⟩
  | cons id rest ih =>
    obtain ⟨between, first, one⟩ := recordOne_on store journal model now id
    obtain ⟨after, others, all⟩ := ih between
    refine ⟨after, ?_, one.trans all⟩
    rw [record, Action.on_bind, first]
    exact others

def isSince (model : String) (bound : Timestamp) (document : Document) : Bool :=
  document.hasEqual modelKey (.string model) &&
    document.hasOrdered deletedKey (.date bound) (· != .lt)

theorem deletedSince_on (store : Store) (journal model : String) (bound : Timestamp) :
    (deletedSince Store.backend journal model bound).on store =
      (.ok ((store.shelf journal).values.filter (isSince model bound)), store) := by
  have verdict (document : Document) :
      Expr.verdict document (.all [.compare modelKey .eq (.string model),
        .compare deletedKey .gte (.date bound)]) = .ok (isSince model bound document) := by
    simp only [Expr.verdict, Expr.verdictAll, Document.compares, isSince, bind, Except.bind]
    cases document.hasEqual modelKey (.string model) <;>
      cases document.hasOrdered deletedKey (.date bound) (· != .lt) <;> rfl
  have selected := Expr.select_of_verdict fun document
    (_ : document ∈ (store.shelf journal).values) => verdict document
  have answered : store.query journal (since model bound) =
      .ok ((store.shelf journal).values.filter (isSince model bound)) := by
    simp only [Store.query, since, selected, bind, Except.bind, pure, Except.pure]
    exact congrArg Except.ok (List.map_id _)
  exact congrArg (·, store) answered

/-- A sync request finds the entries of its collection from the bound on. -/
theorem isSince_entry_iff {model name : String} {bound time : Timestamp} {id : ObjectId} :
    isSince name bound (entry model time id) = true ↔
      model = name ∧ bound.millis ≤ time.millis := by
  have modelled : (entry model time id).candidates modelKey = [.string model] := rfl
  have dated : (entry model time id).candidates deletedKey = [.date time] := rfl
  have ordered : compare time.millis bound.millis ≠ .lt ↔ bound.millis ≤ time.millis := by
    rw [ne_eq, Std.compare_eq_lt, Std.not_lt]
  simp only [isSince, Document.hasEqual, Document.hasOrdered, modelled, dated, Value.same,
    Value.compare?, List.any_cons, List.any_nil, Bool.or_false, Option.any_some, Bool.and_eq_true,
    beq_iff_eq, bne_iff_ne, ordered]

theorem isSince_entry {model : String} {bound time : Timestamp} (id : ObjectId)
    (later : bound.millis ≤ time.millis) : isSince model bound (entry model time id) = true :=
  isSince_entry_iff.2 ⟨rfl, later⟩

end Journal

theorem Collection.delete_on (schema : Schema) (journal : String) (store : Store)
    (now : Timestamp) (ids : List ObjectId) :
    ∃ after, ((⟨schema, Store.backend, journal⟩ : Collection Store).delete now ids).on store =
        (.ok (), after) ∧
      ∀ collection id, (after.shelf collection).get? id =
        if journal = collection ∧ id ∈ ids then some (Journal.entry schema.name now id)
        else if schema.name = collection ∧ id ∈ ids then none
        else (store.shelf collection).get? id := by
  obtain ⟨after, recorded, contents⟩ :=
    Journal.record_on (store.delete schema.name ids) journal schema.name now ids
  refine ⟨after, ?_, fun collection id => ?_⟩
  · rw [delete, Action.on_bind]
    exact recorded
  · rw [contents, Store.get?_shelf_delete]

section Deleted

variable {store after : Store} {schema : Schema} {journal : String} {now : Timestamp}
  {ids : List ObjectId}

theorem Collection.get?_of_deleted
    (deleted : ((⟨schema, Store.backend, journal⟩ : Collection Store).delete now ids).on store =
      (.ok (), after)) (collection : String) (id : ObjectId) :
    (after.shelf collection).get? id =
      if journal = collection ∧ id ∈ ids then some (Journal.entry schema.name now id)
      else if schema.name = collection ∧ id ∈ ids then none
      else (store.shelf collection).get? id := by
  obtain ⟨again, same, contents⟩ := delete_on schema journal store now ids
  rw [same] at deleted
  cases deleted
  exact contents collection id

theorem Store.Keyed.of_deleted (keyed : store.Keyed)
    (deleted : ((⟨schema, Store.backend, journal⟩ : Collection Store).delete now ids).on store =
      (.ok (), after)) : after.Keyed := by
  intro collection id document found
  rw [Collection.get?_of_deleted deleted] at found
  split at found
  · cases found
    exact Journal.id?_entry schema.name now id
  · split at found
    · cases found
    · exact keyed collection id document found

end Deleted

end DocumentQuery
