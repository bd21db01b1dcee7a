import DocumentQuery.Proofs.Service.Requests
import DocumentQuery.Proofs.Sync.Run

/-! Sync requests. A page of changed documents is followed by the journal entries of the
collection from the bound on, while an empty page stays empty. The journal keeps one
entry for an identifier, whichever collection it was deleted through last.
-/

set_option autoImplicit false

namespace DocumentQuery

def Document.isUpdated (settings : Settings) (bound : Timestamp) (document : Document) : Bool :=
  document.hasOrdered settings.updatedField (.date bound) (· != .lt)

theorem Plan.select_syncCondition (settings : Settings) (bound : Timestamp)
    (documents : List Document) :
    (syncCondition settings bound).select documents =
      .ok (documents.filter (Document.isUpdated settings bound)) :=
  Expr.select_of_verdict fun _ _ => rfl

theorem Store.page_eq_nil_iff (limit : Int64) (documents : List Document) :
    page (some 0) (some limit) documents = [] ↔ documents = [] := by
  have whole : documents.drop (((some (0 : Int64)).map (·.toInt.toNat)).getD 0) = documents := rfl
  simp only [page, whole]
  split
  · rename_i positive
    have count := toNat_pos positive
    rw [List.take_eq_nil_iff]
    constructor
    · rintro (none | empty)
      · omega
      · exact empty
    · exact .inr
  · rfl

/-- The first page of the documents of a collection that were changed since a bound, as far as the
caller may see them. -/
def Store.changes (store : Store) (settings : Settings) (schema : Schema) (bound : Timestamp)
    (locale : String) (elevated : Bool) : List Document :=
  (page (some 0) (some (Page.bounded settings none))
    ((store.shelf schema.name).values.filter (Document.isUpdated settings bound))).map
      (Projection.applyTo (Plan.selection settings schema locale elevated))

theorem Store.changes_eq_nil_iff {store : Store} {settings : Settings} {schema : Schema}
    {bound : Timestamp} {locale : String} {elevated : Bool} :
    store.changes settings schema bound locale elevated = [] ↔
      ∀ document ∈ (store.shelf schema.name).values, document.isUpdated settings bound = false := by
  rw [changes, List.map_eq_nil_iff, page_eq_nil_iff, List.filter_eq_nil_iff]
  simp

/-- What the plan of a sync request without parameters asks for. -/
structure Plan.Synchronizes (plan : Plan) (settings : Settings) (schema : Schema)
    (bound : Timestamp) (locale : String) (elevated : Bool) : Prop where
  filtered : plan.query.filter = some (syncCondition settings bound)
  limited : plan.query.limit = some (Page.bounded settings none)
  unskipped : plan.query.skip = some 0
  unsorted : plan.query.sort = []
  selected : plan.query.projection = selection settings schema locale elevated
  flat : plan.query.populate = []
  shallow : plan.deepPaths = []
  synced : plan.sync = some ⟨schema.name, bound⟩

namespace Plan

variable {plan : Plan} {settings : Settings} {schema : Schema} {bound : Timestamp}
  {locale : String} {elevated : Bool}

theorem Synchronizes.query (h : plan.Synchronizes settings schema bound locale elevated)
    (store : Store) :
    store.query schema.name plan.query =
      .ok (store.changes settings schema bound locale elevated) := by
  rw [Store.query]
  simp only [h.filtered, h.limited, h.unskipped, h.unsorted, h.selected, select_syncCondition, bind,
    Except.bind, pure, Except.pure]
  rfl

/-- A page that is not empty is followed by the journal entries from the bound on. -/
theorem Synchronizes.assemble (h : plan.Synchronizes settings schema bound locale elevated)
    (registry : Registry) (shown : List Document) (store : Store) :
    (plan.assemble Store.backend registry settings (.many shown)).on store =
      (.ok (.many (if shown.isEmpty then [] else shown ++
        (store.shelf settings.journalCollection).values.filter
          (Journal.isSince schema.name bound))), store) := by
  rw [Plan.assemble]
  cases shown with
  | nil => rfl
  | cons document rest =>
    have deleted := Journal.deletedSince_on store settings.journalCollection schema.name bound
    simp only [DocumentSet.isEmpty, DocumentSet.toList, List.isEmpty_cons, Bool.false_eq_true,
      if_false, expandDeep, h.shallow, List.isEmpty_nil, if_true, Action.on_bind, Action.on_pure,
      addDeleted, h.synced, deleted]

end Plan

namespace Service

variable {registry : Registry} {settings : Settings} {schema : Schema} {store : Store}
  {text : String} {bound : Timestamp}

/-- A sync request without parameters gives the first page of changed documents, followed by the
journal entries from the bound on unless that page is empty. -/
theorem sync_on (known : registry.get? schema.name = some schema)
    (read : Timestamp.read? text = some bound) (hint : Option String) (elevated : Bool)
    (settings : Settings) (store : Store) :
    (Service.findAll ⟨Store.backend, registry, settings⟩ schema.name []
        ⟨hint, elevated, some text⟩).on store =
      let shown := store.changes settings schema bound (settings.locales.resolve hint) elevated
      (.ok (if shown.isEmpty then [] else shown ++
        (store.shelf settings.journalCollection).values.filter
          (Journal.isSince schema.name bound)), store) := by
  let context : Context := ⟨hint, elevated, some text⟩
  let plan := Plan.ofReading registry settings schema schema.name context
    (Plan.Reading.ofParameters settings []) (some bound) []
  have readable : Plan.bound? (some text) = .ok (some bound) := by simp [Plan.bound?, read]
  have planned : (⟨Store.backend, registry, settings⟩ : Service Store).plan schema.name [] context =
      .ok plan :=
    Plan.compile_nil known readable
  have syncs : plan.Synchronizes settings schema bound (settings.locales.resolve hint) elevated :=
    ⟨rfl, rfl, rfl, rfl, rfl, rfl, rfl, rfl⟩
  rw [findAll_eq_answer known planned, answer_ok]
  refine ⟨_, store, _, ?_, syncs.assemble registry _ store, rfl⟩
  rw [Collection.exec_on, syncs.query, syncs.flat]
  rfl

/-- A sync request whose page is not empty returns an entry for every identifier that was deleted
through its collection last, at or after the bound; a request whose page is empty returns it as it
is. -/
theorem Run.sync_complete {log : List Deletion} {name : String} (built : registry.Built)
    (run : Run registry settings store log) (known : registry.get? name = some schema)
    (read : Timestamp.read? text = some bound) (hint : Option String) (elevated : Bool) :
    ∃ documents,
      (Service.findAll ⟨Store.backend, registry, settings⟩ name [] ⟨hint, elevated, some text⟩).on
        store = (.ok documents, store) ∧
      ((∃ document ∈ (store.shelf name).values, document.isUpdated settings bound = true) →
        ∀ id time, Deletion.latest? log id = some ⟨name, id, time⟩ → bound.millis ≤ time.millis →
          Journal.entry name time id ∈ documents) ∧
      ((∀ document ∈ (store.shelf name).values, document.isUpdated settings bound = false) →
        documents = []) := by
  have named := (built.get? known).2
  subst named
  refine ⟨_, sync_on known read hint elevated settings store, ?_, ?_⟩
  · rintro ⟨document, there, updated⟩ id time latest later
    have nonempty : store.changes settings schema bound (settings.locales.resolve hint)
        elevated ≠ [] := by
      intro empty
      rw [Store.changes_eq_nil_iff.1 empty document there] at updated
      cases updated
    rw [if_neg (by simpa using nonempty)]
    refine List.mem_append_right _ (List.mem_filter.2 ⟨?_, Journal.isSince_entry id later⟩)
    exact SortedMap.mem_values_of_get? (run.journals built id _ latest)
  · intro stale
    rw [if_pos (by simpa using Store.changes_eq_nil_iff.2 stale)]

end Service

def Schema.post : Schema :=
  ⟨"post", .plain idKey (.primitive .objectId) :: timestamps⟩

def Schema.author : Schema :=
  ⟨"author", [.plain idKey (.primitive .objectId)]⟩

namespace Registry

def newsroom : Registry :=
  ⟨⟨[("author", .author), (defaultJournal, .journal defaultJournal), ("post", .post)], by decide⟩⟩

theorem built_newsroom : newsroom.Built := by
  refine ⟨[.post, .author], defaultJournal, ?_, rfl⟩
  intro schema there
  have flat : ∀ field ∈ schema.fields, field.type.embeddedSchema? = none := by
    simp only [List.mem_cons, List.not_mem_nil, or_false] at there
    rcases there with rfl | rfl
    · simp [Schema.post, Schema.timestamps, Field.plain, FieldType.embeddedSchema?,
        FieldType.element]
    · simp [Schema.author, Field.plain, FieldType.embeddedSchema?, FieldType.element]
  refine .intro ?_ fun field listed inner embedded => ?_
  · simp only [List.mem_cons, List.not_mem_nil, or_false] at there
    rcases there with rfl | rfl
    · exact ⟨"post", Schema.timestamps, rfl⟩
    · exact ⟨"author", [], rfl⟩
  · rw [flat field listed] at embedded
    cases embedded

end Registry

def Store.newsroom (posts : List Document) : Store :=
  (((Store.empty.insert "post" ([(idKey, .objectId ⟨1⟩)] :: posts)).2).insert "author"
    [[(idKey, .objectId ⟨1⟩)]]).2

def Store.deleting (store : Store) (schema : Schema) (time : Timestamp) : Store :=
  (((⟨schema, Store.backend, defaultJournal⟩ : Collection Store).delete time [⟨1⟩]).on store).2

def Document.freshPost : Document :=
  [(idKey, .objectId ⟨2⟩), ("updated", .date ⟨2⟩)]

namespace Service

theorem run_newsroom (posts : List Document) :
    Run .newsroom {} ((Store.newsroom posts).deleting .post ⟨3⟩) [⟨"post", ⟨1⟩, ⟨3⟩⟩] :=
  have known : Registry.newsroom.get? "post" = some .post := rfl
  Run.deleting (.start (Store.newsroom posts)) known ⟨3⟩ [⟨1⟩]

/-- The deletion of a post is in the answer to a sync request when another post was changed. -/
theorem sync_complete_newsroom :
    ∃ store documents, Run .newsroom {} store [⟨"post", ⟨1⟩, ⟨3⟩⟩] ∧
      (Service.findAll ⟨Store.backend, .newsroom, {}⟩ "post" [] ⟨none, false, some "1970-01-01"⟩).on
        store = (.ok documents, store) ∧ Journal.entry "post" ⟨3⟩ ⟨1⟩ ∈ documents := by
  have run := run_newsroom [.freshPost]
  have known : Registry.newsroom.get? "post" = some .post := rfl
  have read : Timestamp.read? "1970-01-01" = some ⟨0⟩ := by decide
  obtain ⟨documents, answered, complete, _⟩ :=
    run.sync_complete Registry.built_newsroom known read none false
  have there : Document.freshPost ∈
      (((Store.newsroom [.freshPost]).deleting .post ⟨3⟩).shelf "post").values := by
    rw [show (((Store.newsroom [.freshPost]).deleting .post ⟨3⟩).shelf "post").values =
      [.freshPost] from rfl]
    exact List.mem_cons_self
  have updated : Document.freshPost.isUpdated {} ⟨0⟩ = true := rfl
  have latest : Deletion.latest? [⟨"post", ⟨1⟩, ⟨3⟩⟩] ⟨1⟩ = some ⟨"post", ⟨1⟩, ⟨3⟩⟩ := rfl
  exact ⟨_, documents, run, answered, complete ⟨_, there, updated⟩ ⟨1⟩ ⟨3⟩ latest (by decide)⟩

/-- Deletions that a sync request misses: that of the only post, since the page is empty, and that
of a post whose identifier was deleted again through another collection, which took the entry. -/
theorem sync_incomplete_newsroom :
    (∃ store, Run .newsroom {} store [⟨"post", ⟨1⟩, ⟨3⟩⟩] ∧
      (Service.findAll ⟨Store.backend, .newsroom, {}⟩ "post" [] ⟨none, false, some "1970-01-01"⟩).on
        store = (.ok [], store)) ∧
    (∃ store, Run .newsroom {} store [⟨"author", ⟨1⟩, ⟨4⟩⟩, ⟨"post", ⟨1⟩, ⟨3⟩⟩] ∧
      (Service.findAll ⟨Store.backend, .newsroom, {}⟩ "post" [] ⟨none, false, some "1970-01-01"⟩).on
        store = (.ok [.freshPost], store)) := by
  have posts : Registry.newsroom.get? Schema.post.name = some .post := rfl
  have authors : Registry.newsroom.get? "author" = some .author := rfl
  have read : Timestamp.read? "1970-01-01" = some ⟨0⟩ := by decide
  constructor
  · let store := (Store.newsroom []).deleting .post ⟨3⟩
    have shown : store.changes {} .post ⟨0⟩ (({} : Settings).locales.resolve none) false = [] := rfl
    refine ⟨store, run_newsroom [], (sync_on posts read none false {} store).trans ?_⟩
    rw [shown]
    rfl
  · let store := ((Store.newsroom [.freshPost]).deleting .post ⟨3⟩).deleting .author ⟨4⟩
    have live : (store.shelf Schema.post.name).values = [.freshPost] := by decide +kernel
    have shown : store.changes {} .post ⟨0⟩ (({} : Settings).locales.resolve none) false =
        [.freshPost] := by
      rw [Store.changes, live]
      rfl
    have journaled : (store.shelf ({} : Settings).journalCollection).values =
        [Journal.entry "author" ⟨4⟩ ⟨1⟩] := by decide +kernel
    refine ⟨store, (run_newsroom [.freshPost]).deleting authors ⟨4⟩ [⟨1⟩],
      (sync_on posts read none false {} store).trans ?_⟩
    rw [shown, journaled]
    rfl

end Service

end DocumentQuery
