import DocumentQuery.Proofs.Population.Identity
import DocumentQuery.Proofs.Service.Single
import DocumentQuery.Proofs.Sync.History
import DocumentQuery.Proofs.Sync.Requests

/-! Documents that came to life again. A sync request appends the journal entries of its
collection without looking at what is stored. Since an insertion leaves the journal alone, the
entry of a deletion is still appended when a document was inserted again under its identifier.
There is no other way for a live document to be reported as deleted, unless a client writes
into the journal itself.
-/

set_option autoImplicit false

namespace DocumentQuery

namespace Store.Follows

variable {store : Store} {journal name : String} {changes : List Change} {id : ObjectId}

/-- An entry of the journal is that of the last deletion of its identifier, through a collection
that holds the identifier only if it was inserted again; or it was inserted as it is. -/
theorem recreates_of_isSince (follows : store.Follows journal changes) (apart : name ≠ journal)
    {bound : Timestamp} {entry : Document} (there : entry ∈ (store.shelf journal).values)
    (shown : Journal.isSince name bound entry = true) :
    ∃ id, entry.id? = some id ∧ (((store.shelf name).get? id).isSome = true →
      (∃ time, entry = Journal.entry name time id ∧ bound.millis ≤ time.millis ∧
        Change.Recreates changes name id time) ∨ Change.Plants changes journal id) := by
  obtain ⟨id, found⟩ := SortedMap.exists_get?_of_mem_values there
  refine ⟨id, follows.keyed journal id entry found, fun live => ?_⟩
  cases latest : Deletion.latest? (Change.deletions changes) id with
  | none => exact .inr ⟨latest, follows.planted id entry latest found⟩
  | some deleted =>
    have same : deleted.id = id := by simpa using List.find?_some latest
    have recorded := follows.journals id deleted latest
    rw [found] at recorded
    cases recorded
    obtain ⟨rfl, later⟩ := Journal.isSince_entry_iff.1 shown
    subst same
    exact .inl ⟨deleted.time, rfl, later, latest, (follows.live _ deleted latest apart).1 live⟩

/-- An identifier that was deleted and inserted again is stored, and its deletion is journaled. -/
theorem get?_of_recreates (follows : store.Follows journal changes) (apart : name ≠ journal)
    {time : Timestamp} (recreated : Change.Recreates changes name id time) :
    (store.shelf journal).get? id = some (Journal.entry name time id) ∧
      ((store.shelf name).get? id).isSome = true :=
  ⟨follows.journals id _ recreated.1, (follows.live id _ recreated.1 apart).2 recreated.2⟩

end Store.Follows

namespace Service

variable {registry : Registry} {settings : Settings} {schema root : Schema} {plan : Plan}
  {store after : Store} {name : String} {bound : Timestamp} {documents page : List Document}

/-- The answer to a plan for a sync request is the answer to this plan without its scope, followed
by the journal entries from the bound on unless it is empty. -/
theorem answer_synced (known : registry.get? plan.collection = some root)
    (synced : plan.sync = some ⟨name, bound⟩)
    (answered : (answer ⟨Store.backend, registry, settings⟩ schema plan).on store =
      (.ok documents, after)) :
    ∃ page, (answer ⟨Store.backend, registry, settings⟩ schema { plan with sync := none }).on
        store = (.ok page, store) ∧
      documents = page ++ if page.isEmpty then [] else
        (store.shelf settings.journalCollection).values.filter (Journal.isSince name bound) := by
  obtain ⟨expanded, between, set, exec, assembled, rfl⟩ := answer_ok.1 answered
  have same : store = between := by
    obtain ⟨queried, _, run⟩ := Collection.exec_ok exec
    obtain ⟨change, expands⟩ := Population.expandAll_on store queried plan.query.populate
    rw [expands] at run
    exact (Prod.mk.inj run).2
  subst same
  cases expanded with
  | nil =>
    cases assembled
    exact ⟨[], answer_ok.2 ⟨[], store, .many [], exec, rfl, rfl⟩, rfl⟩
  | cons first rest =>
    let unsynced : Plan := { plan with sync := none }
    have filled : (first :: rest).isEmpty = false := rfl
    obtain ⟨change, expands⟩ := Plan.expandDeep_on known store filled
    have expanded := expands (.many (first :: rest)) rfl
    have deleted := Journal.deletedSince_on store settings.journalCollection name bound
    have shown : (unsynced.assemble Store.backend registry settings (.many (first :: rest))).on
        store = (.ok (.many ((first :: rest).map change)), store) := by
      simp only [Plan.assemble, DocumentSet.isEmpty, DocumentSet.toList, filled,
        Bool.false_eq_true, if_false, Action.on_bind]
      -- Deep expansion does not look at the scope of a sync request.
      have expanded' : (unsynced.expandDeep Store.backend registry (.many (first :: rest))).on
        store = _ := expanded
      rw [expanded']
      rfl
    refine ⟨(first :: rest).map change, answer_ok.2 ⟨_, store, _, exec, shown, rfl⟩, ?_⟩
    simp only [Service.assemble, Plan.assemble, DocumentSet.isEmpty, DocumentSet.toList, filled,
      Bool.false_eq_true, if_false, Action.on_bind, expanded, Plan.addDeleted, synced, deleted,
      DocumentSet.map, Action.on_pure] at assembled
    cases assembled
    rfl

theorem isSome_of_mem_answer (keyed : store.Keyed) (unsynced : plan.sync = none)
    (answered : (answer ⟨Store.backend, registry, settings⟩ schema plan).on store =
      (.ok page, after)) {document : Document} (there : document ∈ page) {id : ObjectId}
    (named : document.id? = some id) :
    ((store.shelf schema.name).get? id).isSome = true := by
  let holds (document : Document) : Prop :=
    ∀ id, document.id? = some id → ((store.shelf schema.name).get? id).isSome = true
  have resolved : ∀ referent? locale path document, holds document →
      holds (document.resolveAt referent? locale path) :=
    fun _ _ _ _ held id named => held id (Document.id?_of_resolveAt named)
  obtain ⟨expanded, between, set, exec, assembled, rfl⟩ := answer_ok.1 answered
  have each : ∀ document ∈ (DocumentSet.many expanded).toList, holds document := by
    obtain ⟨queried, found, run⟩ := Collection.exec_ok exec
    refine Population.forall_expandAll resolved (fun document there id named => ?_) run
    obtain ⟨stored, listed, rfl⟩ := Store.mem_query found there
    obtain ⟨own, under⟩ := SortedMap.exists_get?_of_mem_values listed
    have same := keyed schema.name own stored under
    rw [Projection.id?_of_applyTo named] at same
    cases same
    rw [under]
    rfl
  rw [Service.assemble, Plan.assemble] at assembled
  split at assembled
  · cases assembled
    exact each document there id named
  · obtain ⟨deep, _, run, last⟩ := Action.on_bind_ok.1 assembled
    rw [Plan.addDeleted_of_unsynced unsynced] at last
    cases last
    exact Plan.forall_expandDeep resolved each run document there id named

/-- Of an identifier that a sync request reports as deleted, a document is stored only if it was
inserted after the deletion, or if the entry was itself inserted into the journal. In the first case
the entry is reported although the document is stored. -/
theorem History.sync_recreated {changes : List Change} {text : String} {parameters : Parameters}
    {hint : Option String} {elevated : Bool} (built : registry.Built)
    (history : History registry settings store changes) (apart : name ≠ settings.journalCollection)
    (read : Timestamp.read? text = some bound)
    (answered : (findAll ⟨Store.backend, registry, settings⟩ name parameters
      ⟨hint, elevated, some text⟩).on store = (.ok documents, after)) :
    ∃ schema plan page entries, registry.get? name = some schema ∧
      Plan.compile registry settings name parameters ⟨hint, elevated, some text⟩ = .ok plan ∧
      (answer ⟨Store.backend, registry, settings⟩ schema { plan with sync := none }).on store =
        (.ok page, store) ∧
      (entries = if page.isEmpty then [] else
        (store.shelf settings.journalCollection).values.filter (Journal.isSince name bound)) ∧
      documents = page ++ entries ∧
      (∀ entry ∈ entries, ∃ id, entry.id? = some id ∧
        (((store.shelf name).get? id).isSome = true →
          (∃ time, entry = Journal.entry name time id ∧ bound.millis ≤ time.millis ∧
            Change.Recreates changes name id time) ∨
          Change.Plants changes settings.journalCollection id)) ∧
      (∀ document ∈ page, ∀ entry ∈ entries, ∀ id, document.id? = some id → entry.id? = some id →
        (∃ time, Change.Recreates changes name id time) ∨
          Change.Plants changes settings.journalCollection id) ∧
      (page ≠ [] → ∀ id time, Change.Recreates changes name id time →
        bound.millis ≤ time.millis →
          Journal.entry name time id ∈ entries ∧ ((store.shelf name).get? id).isSome = true) := by
  have follows := history.follows built
  obtain ⟨schema, plan, known, planned, run⟩ := findAll_ok answered
  obtain ⟨own, synced⟩ := Plan.scope_of_compile read planned
  have named := (built.get? known).2
  obtain ⟨page, shown, same⟩ := answer_synced (own ▸ known) synced run
  have reported : ∀ entry ∈ if page.isEmpty then [] else
      (store.shelf settings.journalCollection).values.filter (Journal.isSince name bound),
        ∃ id, entry.id? = some id ∧ (((store.shelf name).get? id).isSome = true →
          (∃ time, entry = Journal.entry name time id ∧ bound.millis ≤ time.millis ∧
            Change.Recreates changes name id time) ∨
          Change.Plants changes settings.journalCollection id) := by
    intro entry there
    split at there
    · exact absurd there List.not_mem_nil
    · obtain ⟨listed, since⟩ := List.mem_filter.1 there
      exact follows.recreates_of_isSince apart listed since
  refine ⟨schema, plan, page, _, known, planned, shown, rfl, same, reported, ?_, ?_⟩
  · intro document there entry appended id own own'
    have live := isSome_of_mem_answer follows.keyed rfl shown there own
    obtain ⟨id', named', recreated⟩ := reported entry appended
    rw [own'] at named'
    cases named'
    rw [named] at live
    rcases recreated live with ⟨time, _, _, recreated⟩ | planted
    · exact .inl ⟨time, recreated⟩
    · exact .inr planted
  · intro filled id time recreated later
    obtain ⟨journaled, live⟩ := follows.get?_of_recreates apart recreated
    rw [if_neg (by simpa using filled)]
    exact ⟨List.mem_filter.2 ⟨SortedMap.mem_values_of_get? journaled,
      Journal.isSince_entry id later⟩, live⟩

theorem History.inserting {changes : List Change} {now : Timestamp} {fresh : Nat → ObjectId}
    {inserted : List Document} (history : History registry settings store changes)
    (ids : List ObjectId)
    (ran : ((Service.insert ⟨Store.backend, registry, settings⟩ name now fresh inserted).on
      store).1.toOption = some ids) :
    History registry settings
      ((Service.insert ⟨Store.backend, registry, settings⟩ name now fresh inserted).on store).2
      (ids.map (.insertion name ·) ++ changes) :=
  .insert history (Prod.ext (ok_of_toOption ran) rfl)

theorem History.deleting {changes : List Change}
    (history : History registry settings store changes) (known : registry.get? name = some schema)
    (now : Timestamp) (ids : List ObjectId) :
    History registry settings (((⟨schema, Store.backend, settings.journalCollection⟩ :
      Collection Store).delete now ids).on store).2
      (ids.map (.deletion ⟨name, ·, now⟩) ++ changes) := by
  obtain ⟨after, deleted, _⟩ :=
    Collection.delete_on schema settings.journalCollection store now ids
  rw [deleted]
  exact .delete history (collection_ok.2 ⟨schema, known, rfl⟩) deleted

end Service

def Store.adding (store : Store) (name : String) (document : Document) (time : Timestamp) : Store :=
  ((Service.insert ⟨Store.backend, .newsroom, {}⟩ name time (fun _ => ⟨9⟩) [document]).on store).2

def Store.reborn : Store :=
  ((Store.empty.adding "post" [(idKey, .objectId ⟨1⟩)] ⟨2⟩).deleting .post ⟨3⟩).adding "post"
    [(idKey, .objectId ⟨1⟩)] ⟨4⟩

def Store.planted : Store :=
  (Store.empty.adding "post" [(idKey, .objectId ⟨1⟩)] ⟨4⟩).adding defaultJournal
    (Journal.entry "post" ⟨3⟩ ⟨1⟩) ⟨4⟩

def Document.livePost : Document :=
  [(idKey, .objectId ⟨1⟩), ("created", .date ⟨4⟩), ("updated", .date ⟨4⟩)]

namespace Service

theorem history_reborn : History .newsroom {} .reborn
    [.insertion "post" ⟨1⟩, .deletion ⟨"post", ⟨1⟩, ⟨3⟩⟩, .insertion "post" ⟨1⟩] := by
  have known : Registry.newsroom.get? "post" = some .post := rfl
  have first : History .newsroom {} (Store.empty.adding "post" [(idKey, .objectId ⟨1⟩)] ⟨2⟩)
      [.insertion "post" ⟨1⟩] :=
    (History.start .empty rfl).inserting [⟨1⟩] (by decide +kernel)
  exact (first.deleting known ⟨3⟩ [⟨1⟩]).inserting [⟨1⟩] (by decide +kernel)

theorem history_planted : History .newsroom {} .planted
    [.insertion defaultJournal ⟨1⟩, .insertion "post" ⟨1⟩] := by
  have first : History .newsroom {} (Store.empty.adding "post" [(idKey, .objectId ⟨1⟩)] ⟨4⟩)
      [.insertion "post" ⟨1⟩] :=
    (History.start .empty rfl).inserting [⟨1⟩] (by decide +kernel)
  exact first.inserting [⟨1⟩] (by decide +kernel)

theorem sync_live {store : Store} (live : (store.shelf "post").values = [.livePost])
    (journaled : (store.shelf defaultJournal).values = [Journal.entry "post" ⟨3⟩ ⟨1⟩]) :
    (findAll ⟨Store.backend, .newsroom, {}⟩ "post" [] ⟨none, false, some "1970-01-01"⟩).on store =
      (.ok [.livePost, Journal.entry "post" ⟨3⟩ ⟨1⟩], store) := by
  have known : Registry.newsroom.get? Schema.post.name = some .post := rfl
  have read : Timestamp.read? "1970-01-01" = some ⟨0⟩ := by decide
  have own : store.shelf Schema.post.name = store.shelf "post" := rfl
  have journal : store.shelf ({} : Settings).journalCollection = store.shelf defaultJournal := rfl
  have shown : store.changes {} .post ⟨0⟩ (({} : Settings).locales.resolve none) false =
      [.livePost] := by
    rw [Store.changes, own, live]
    rfl
  refine (sync_on known read none false {} store).trans ?_
  rw [shown, journal, journaled]
  rfl

theorem sync_reborn :
    (findAll ⟨Store.backend, .newsroom, {}⟩ "post" [] ⟨none, false, some "1970-01-01"⟩).on .reborn =
      (.ok [.livePost, Journal.entry "post" ⟨3⟩ ⟨1⟩], .reborn) :=
  sync_live (by decide +kernel) (by decide +kernel)

/-- The post that was inserted again is stored, and its deletion is reported. -/
theorem sync_recreated_newsroom :
    Registry.newsroom.Built ∧ "post" ≠ ({} : Settings).journalCollection ∧
      Timestamp.read? "1970-01-01" = some ⟨0⟩ ∧
      History .newsroom {} .reborn
        [.insertion "post" ⟨1⟩, .deletion ⟨"post", ⟨1⟩, ⟨3⟩⟩, .insertion "post" ⟨1⟩] ∧
      ∃ documents, (findAll ⟨Store.backend, .newsroom, {}⟩ "post" []
          ⟨none, false, some "1970-01-01"⟩).on .reborn = (.ok documents, .reborn) ∧
        Journal.entry "post" ⟨3⟩ ⟨1⟩ ∈ documents ∧
        ((Store.reborn.shelf "post").get? ⟨1⟩).isSome = true := by
  have apart : "post" ≠ ({} : Settings).journalCollection := by decide
  have read : Timestamp.read? "1970-01-01" = some ⟨0⟩ := by decide
  have recreated : Change.Recreates
      [.insertion "post" ⟨1⟩, .deletion ⟨"post", ⟨1⟩, ⟨3⟩⟩, .insertion "post" ⟨1⟩]
      "post" ⟨1⟩ ⟨3⟩ := ⟨rfl, List.mem_cons_self⟩
  obtain ⟨_, _, page, entries, _, _, _, appended, same, _, _, reported⟩ :=
    history_reborn.sync_recreated Registry.built_newsroom apart read sync_reborn
  have filled : page ≠ [] := by
    rintro rfl
    rw [appended] at same
    cases same
  obtain ⟨there, live⟩ := reported filled ⟨1⟩ ⟨3⟩ recreated (by decide)
  refine ⟨Registry.built_newsroom, apart, read, history_reborn, _, sync_reborn, ?_, live⟩
  rw [same]
  exact List.mem_append_right page there

/-- Live posts that a sync request reports as deleted: one that was inserted again, and one for
which a client wrote into the journal. -/
theorem sync_reports_live :
    (∃ store, History .newsroom {} store
        [.insertion "post" ⟨1⟩, .deletion ⟨"post", ⟨1⟩, ⟨3⟩⟩, .insertion "post" ⟨1⟩] ∧
      (store.shelf "post").get? ⟨1⟩ = some .livePost ∧
      (findAll ⟨Store.backend, .newsroom, {}⟩ "post" [] ⟨none, false, some "1970-01-01"⟩).on
        store = (.ok [.livePost, Journal.entry "post" ⟨3⟩ ⟨1⟩], store)) ∧
    ∃ store, History .newsroom {} store
        [.insertion defaultJournal ⟨1⟩, .insertion "post" ⟨1⟩] ∧
      (store.shelf "post").get? ⟨1⟩ = some .livePost ∧
      (findAll ⟨Store.backend, .newsroom, {}⟩ "post" [] ⟨none, false, some "1970-01-01"⟩).on
        store = (.ok [.livePost, Journal.entry "post" ⟨3⟩ ⟨1⟩], store) :=
  ⟨⟨.reborn, history_reborn, by decide +kernel, sync_reborn⟩,
    ⟨.planted, history_planted, by decide +kernel,
      sync_live (by decide +kernel) (by decide +kernel)⟩⟩

end Service

end DocumentQuery
