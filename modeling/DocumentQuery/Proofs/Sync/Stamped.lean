import DocumentQuery.Proofs.Sync.History
import DocumentQuery.Proofs.Sync.Requests

/-! The dates of inserted documents. An insertion dates documents under two fixed names, while a
sync request looks at the date that the settings name. So it finds whatever is inserted exactly
when the settings name one of these two.
-/

set_option autoImplicit false

namespace DocumentQuery

theorem Store.query_syncCondition (store : Store) (collection : String) (settings : Settings)
    (bound : Timestamp) :
    store.query collection { filter := some (Plan.syncCondition settings bound) } =
      .ok ((store.shelf collection).values.filter (Document.isUpdated settings bound)) := by
  simp only [Store.query, Plan.select_syncCondition, bind, Except.bind, pure, Except.pure]
  exact congrArg Except.ok (List.map_id _)

theorem Plan.filter_of_compile {registry : Registry} {settings : Settings} {name text : String}
    {parameters : Parameters} {hint : Option String} {elevated : Bool} {plan : Plan}
    {bound : Timestamp} (read : Timestamp.read? text = some bound)
    (planned : compile registry settings name parameters ⟨hint, elevated, some text⟩ = .ok plan) :
    ∃ others, plan.query.filter = Draft.filterOf (syncCondition settings bound :: others) := by
  obtain ⟨schema, since, clauses, _, bounded, _, rfl⟩ := compile_eq_ok_iff.1 planned
  simp only [bound?, read, Except.ok.injEq] at bounded
  subst bounded
  exact ⟨clauses.map Clause.predicate, rfl⟩

namespace Collection

theorem get?_stamp (schema : Schema) (now : Timestamp) (document : Document) (key other : String) :
    (stamp schema now document key).get? other =
      if key = other ∧ (schema.field? key).isSome = true ∧ document.get? key = none then
        some (.date now)
      else document.get? other := by
  rw [stamp, Document.hasKey]
  by_cases same : key = other
  · subst same
    cases (schema.field? key).isSome <;> cases found : document.get? key <;>
      simp [found, Document.get?_set]
  · split
    · rw [Document.get?_set, if_neg same, if_neg fun both => same both.1]
    · rw [if_neg fun both => same both.1]

theorem eq_date_or_of_get?_stamp {schema : Schema} {now : Timestamp} {document : Document}
    {key other : String} {value : Value}
    (found : (stamp schema now document key).get? other = some value) :
    value = .date now ∨ document.get? other = some value := by
  rw [get?_stamp] at found
  split at found
  · exact .inl (Option.some.inj found).symm
  · exact .inr found

/-- A document has a date under each of the two names that its schema declares. -/
theorem get?_stampAll {schema : Schema} {now : Timestamp} {document : Document} {key : String}
    (stamped : key = "created" ∨ key = "updated")
    (declared : (schema.field? key).isSome = true) (undated : document.get? key = none) :
    (stampAll schema now document).get? key = some (.date now) := by
  rcases stamped with rfl | rfl
  · simp [stampAll, get?_stamp, declared, undated]
  · simp [stampAll, get?_stamp, declared, undated]

theorem get?_stampAll_of_ne {schema : Schema} {now : Timestamp} {document : Document}
    {key : String} (created : key ≠ "created") (updated : key ≠ "updated") :
    (stampAll schema now document).get? key = document.get? key := by
  simp [stampAll, get?_stamp, created.symm, updated.symm]

theorem exists_of_mem_prepare {schema : Schema} {now : Timestamp} {fresh : Nat → ObjectId}
    {used : Nat} {documents prepared : List Document} {ids : List ObjectId}
    (ready : prepare schema now fresh used documents = .ok (ids, prepared)) {document : Document}
    (there : document ∈ prepared) :
    ∃ original ∈ documents, ∃ named : Document, document = stampAll schema now named ∧
      ∀ key, key ≠ idKey → named.get? key = original.get? key := by
  induction documents generalizing used ids prepared with
  | nil =>
    cases ready
    exact absurd there List.not_mem_nil
  | cons first rest ih =>
    obtain ⟨id, named, next, others, more, _, kept, later, rfl, rfl⟩ := prepare_cons_ok ready
    rcases List.mem_cons.1 there with rfl | there
    · exact ⟨first, List.mem_cons_self, named, rfl, kept⟩
    · obtain ⟨original, listed, named, same⟩ := ih later there
      exact ⟨original, List.mem_cons_of_mem _ listed, named, same⟩

end Collection

namespace Document

variable {settings : Settings} {bound time : Timestamp} {document : Document}

theorem isUpdated_of_date (single : Path.ofText settings.updatedField = [settings.updatedField])
    (dated : document.get? settings.updatedField = some (.date time)) :
    document.isUpdated settings bound = true ↔ bound.millis ≤ time.millis := by
  have held : document.candidates settings.updatedField = [.date time] :=
    candidates_of_get? single dated (by simp)
  simp only [isUpdated, hasOrdered, held, Value.compare?, List.any_cons, List.any_nil,
    Bool.or_false, Option.any_some, bne_iff_ne, ne_eq, Std.compare_eq_lt, Std.not_lt]

/-- A document is not found when there is no date at the path of the settings: the path goes on
behind whatever the document has, or it ends at an identifier. -/
theorem not_isUpdated (id : ObjectId)
    (scalar : ∀ key value, document.get? key = some value → value.documents = [])
    (undated : ∀ value, document.get? settings.updatedField = some value → value = .objectId id) :
    document.isUpdated settings bound = false := by
  have nonempty := Path.ofText_ne_nil settings.updatedField
  have whole := Path.text_ofText settings.updatedField
  rw [isUpdated, hasOrdered, candidates]
  rcases path : Path.ofText settings.updatedField with _ | ⟨key, _ | ⟨next, rest⟩⟩
  · exact absurd path nonempty
  · rw [path] at whole
    have own : key = settings.updatedField := by simpa [Path.text] using whole
    subst own
    rw [valuesAt_cons]
    cases found : document.get? settings.updatedField with
    | none => rfl
    | some value =>
      rw [undated value found]
      rfl
  · rw [valuesAt_cons]
    cases found : document.get? key with
    | none => rfl
    | some value =>
      have nothing : Value.valuesAt (next :: rest) value = [] := by
        rw [Value.valuesAt, scalar key value found, List.flatMap_nil]
      rw [Option.map_some, Option.getD_some, nothing]
      rfl

end Document

namespace Collection

variable {settings : Settings} {schema : Schema}

/-- Whatever is inserted without the date that the settings name, at any time and into any store,
is chosen by the sync requests from any bound up to that time. -/
def ShowsInserted (settings : Settings) (schema : Schema) : Prop :=
  ∀ (store after : Store) (now bound : Timestamp) (fresh : Nat → ObjectId)
    (documents : List Document) (ids : List ObjectId),
    (∀ document ∈ documents, document.hasKey settings.updatedField = false) →
    ((⟨schema, Store.backend, settings.journalCollection⟩ : Collection Store).insert now fresh
      documents).on store = (.ok ids, after) →
    bound.millis ≤ now.millis →
    ∃ chosen, after.query schema.name { filter := some (Plan.syncCondition settings bound) } =
        .ok chosen ∧
      ∀ id ∈ ids, ∃ document ∈ chosen, (after.shelf schema.name).get? id = some document

theorem showsInserted_of_stamped
    (stamped : settings.updatedField = "created" ∨ settings.updatedField = "updated")
    (declared : (schema.field? settings.updatedField).isSome = true) :
    ShowsInserted settings schema := by
  intro store after now bound fresh documents ids undated run earlier
  obtain ⟨prepared, ready, inserted⟩ := insert_on_ok.1 run
  obtain ⟨shelf, all, rfl⟩ := Store.insert_ok_iff.1 inserted
  refine ⟨_, Store.query_syncCondition _ _ settings bound, fun id there => ?_⟩
  have single : Path.ofText settings.updatedField = [settings.updatedField] := by
    rcases stamped with same | same <;> rw [same] <;> decide
  have named : some id ∈ prepared.map Document.id? := by
    rw [ids_of_prepare ready]
    exact List.mem_map_of_mem there
  obtain ⟨document, listed, own⟩ := List.mem_map.1 named
  have held : (((store.withShelf schema.name shelf).shelf schema.name).get? id) =
      some document := by
    rw [Store.shelf_withShelf, if_pos rfl]
    exact (Store.get?_insertAll all id document).2 (.inr ⟨listed, own⟩)
  obtain ⟨original, given, named, rfl, kept⟩ := exists_of_mem_prepare ready listed
  have other : settings.updatedField ≠ idKey := by
    rcases stamped with same | same <;> rw [same] <;> decide
  have blank : named.get? settings.updatedField = none := by
    rw [kept _ other]
    simpa [Document.hasKey] using undated original given
  have dated : (stampAll schema now named).get? settings.updatedField = some (.date now) :=
    get?_stampAll stamped declared blank
  exact ⟨_, List.mem_filter.2 ⟨SortedMap.mem_values_of_get? held,
    (Document.isUpdated_of_date single dated).2 earlier⟩, held⟩

/-- A document that was inserted empty is dated under no other name than the two. -/
theorem not_isUpdated_stampAll (created : settings.updatedField ≠ "created")
    (updated : settings.updatedField ≠ "updated") (now bound : Timestamp) (id : ObjectId) :
    (stampAll schema now [(idKey, .objectId id)]).isUpdated settings bound = false := by
  refine Document.not_isUpdated id ?_ ?_
  · intro key value found
    rcases eq_date_or_of_get?_stamp found with rfl | found
    · rfl
    · rcases eq_date_or_of_get?_stamp found with rfl | found
      · rfl
      · rw [Document.get?] at found
        split at found <;> cases found
        rfl
  · intro value found
    rw [get?_stampAll_of_ne created updated, Document.get?] at found
    split at found <;> cases found
    rfl

/-- Sync requests choose the documents from their bound on by the date that the settings name. When
a collection declares this date, whatever is inserted into it without the date is found by the sync
requests from any bound up to the insertion, exactly when the name is one of the two under which an
insertion dates documents. -/
theorem showsInserted_exactly
    (declared : schema.fieldType? settings.updatedField = some (.primitive .date)) :
    (ShowsInserted settings schema ↔
      settings.updatedField = "created" ∨ settings.updatedField = "updated") ∧
    ∀ registry parameters hint elevated text bound plan,
      Timestamp.read? text = some bound →
      Plan.compile registry settings schema.name parameters ⟨hint, elevated, some text⟩ =
        .ok plan →
      ∃ others, plan.query.filter =
        Draft.filterOf (Plan.syncCondition settings bound :: others) := by
  refine ⟨⟨fun shows => ?_, fun stamped => ?_⟩, fun registry parameters hint elevated text bound
    plan read planned => Plan.filter_of_compile read planned⟩
  · refine Decidable.byContradiction fun unstamped => ?_
    obtain ⟨created, updated⟩ := not_or.1 unstamped
    -- An empty document, inserted into an empty store, is not chosen even by the time it came.
    let document := stampAll schema ⟨0⟩ [(idKey, .objectId ⟨0⟩)]
    have named : document.id? = some ⟨0⟩ := by
      rw [id?_stampAll]
      rfl
    have inserted : Store.empty.insert schema.name [document] =
        (.ok (), Store.empty.withShelf schema.name
          ((Store.empty.shelf schema.name).insert ⟨0⟩ document)) :=
      Store.insert_fresh named rfl
    obtain ⟨chosen, answered, complete⟩ := shows .empty _ ⟨0⟩ ⟨0⟩ (fun _ => ⟨0⟩) [[]] [⟨0⟩]
      (by simp [Document.hasKey]) (insert_on_ok.2 ⟨[document], rfl, inserted⟩) (Int64.le_refl _)
    obtain ⟨found, there, held⟩ := complete ⟨0⟩ List.mem_cons_self
    rw [Store.get?_withShelf_insert, if_pos ⟨rfl, rfl⟩] at held
    cases held
    rw [Store.query_syncCondition, Except.ok.injEq] at answered
    subst answered
    have dated := (List.mem_filter.1 there).2
    rw [not_isUpdated_stampAll created updated] at dated
    cases dated
  · refine showsInserted_of_stamped stamped ?_
    rw [Schema.fieldType?, Option.map_eq_some_iff] at declared
    obtain ⟨field, found, _⟩ := declared
    rw [found]
    rfl

/-- Posts declare the date that sync requests look at unless another is chosen, and are found. -/
theorem showsInserted_posts :
    Schema.post.fieldType? ({} : Settings).updatedField = some (.primitive .date) ∧
      ShowsInserted {} .post :=
  ⟨rfl, (showsInserted_exactly rfl).1.2 (.inr rfl)⟩

end Collection

def Schema.note : Schema :=
  ⟨"note", [.plain idKey (.primitive .objectId), .plain "changed" (.primitive .date)]⟩

def Settings.changed : Settings :=
  { updatedField := "changed" }

/-- A note that was inserted without the date that the settings name is not found from a bound
before its insertion. -/
theorem Collection.showsInserted_misses_note :
    ∃ after,
      Schema.note.fieldType? Settings.changed.updatedField = some (.primitive .date) ∧
      ((⟨.note, Store.backend, defaultJournal⟩ : Collection Store).insert ⟨3⟩ (fun _ => ⟨1⟩)
        [[]]).on .empty = (.ok [⟨1⟩], after) ∧
      after.query "note" { filter := some (Plan.syncCondition .changed ⟨0⟩) } = .ok [] :=
  ⟨_, rfl, rfl, rfl⟩

end DocumentQuery
