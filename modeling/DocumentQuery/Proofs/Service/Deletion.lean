import DocumentQuery.Proofs.Service.Single
import DocumentQuery.Proofs.Sync.Requests

/-! Deletions of one document. A deletion that fails leaves the store as it is. One that succeeds
changes nothing but the document and the journal's entry of its identifier. The journal can be
deleted from too: there the entry of the deletion takes the place of the entry that was deleted.
-/

set_option autoImplicit false

namespace DocumentQuery

namespace Service

variable {registry : Registry} {settings : Settings} {store : Store} {name text : String}
  {schema : Schema} {id : ObjectId}

theorem identifies_byId (id : ObjectId) : (Expr.byId id).Identifies id := by
  intro document before after holds
  simp only [Expr.byId, Expr.evaluate, Expr.evaluateComparison, Except.ok.injEq,
    Prod.mk.injEq] at holds
  exact holds.1

/-- A query for one document without further predicates shows what is stored under the
identifier. -/
theorem query_queryById (keyed : store.Keyed) {query : Query} (unfiltered : query.filter = none)
    (collection : String) (id : ObjectId) :
    store.query collection (queryById query id) =
      .ok (((store.shelf collection).get? id).toList.map
        (Projection.applyTo query.projection)) := by
  have selected : (Expr.byId id).select (store.shelf collection).values =
      .ok ((store.shelf collection).get? id).toList := by
    rw [← keyed.values_filter_hasEqual]
    exact Expr.select_of_verdict fun _ _ => rfl
  refine keyed.query_eq (identifies_byId id) ?_ rfl selected
  rw [queryById, unfiltered]
  rfl

/-- A request for one document without parameters gives what is stored under the identifier, as far
as the caller may see it. -/
theorem findById_on (keyed : store.Keyed) (known : registry.get? schema.name = some schema)
    (read : ObjectId.read? text = some id) (hint : Option String) (elevated : Bool)
    (settings : Settings) :
    (findById ⟨Store.backend, registry, settings⟩ schema.name text [] ⟨hint, elevated, none⟩).on
        store =
      ((((store.shelf schema.name).get? id).map (Projection.applyTo
          (Plan.selection settings schema (settings.locales.resolve hint) elevated))).elim
        (.error (.resourceNotFound text schema.name)) .ok, store) := by
  let context : Context := ⟨hint, elevated, none⟩
  let plan := Plan.ofReading registry settings schema schema.name context
    (Plan.Reading.ofParameters settings []) none []
  have planned : (⟨Store.backend, registry, settings⟩ : Service Store).plan schema.name [] context =
      .ok plan :=
    Plan.compile_nil known rfl
  have answered := query_queryById keyed (rfl : plan.query.filter = none) schema.name id
  have ran : ((⟨schema, Store.backend, settings.journalCollection⟩ : Collection Store).exec
      (queryById plan.query id)).on store =
        (.ok (((store.shelf schema.name).get? id).toList.map
          (Projection.applyTo plan.query.projection)), store) := by
    rw [Collection.exec_on, answered]
    rfl
  rw [findById_eq _ known read, planned, Action.on_bind, Action.on_lift]
  simp only [answerById, Action.on_bind, ran]
  cases (store.shelf schema.name).get? id with
  | none => rfl
  | some document =>
    have assembled (shown : Document) : (plan.assemble Store.backend registry settings
        (.one shown)).on store = (.ok (.one shown), store) := by
      have pathless : plan.deepPaths = [] := rfl
      rw [Plan.assemble, Plan.expandDeep, pathless]
      rfl
    simp only [Option.toList_some, List.map_cons, firstOf, Action.on_lift, assemble, assembled,
      DocumentSet.toList]
    rfl

structure Deletes (registry : Registry) (settings : Settings) (store after : Store)
    (name text : String) (now : Timestamp) (id : ObjectId) : Prop where
  /-- The journal holds one entry of the identifier, which is that of this deletion. -/
  journaled : (after.shelf settings.journalCollection).values.filter (·.id? = some id) =
    [Journal.entry name now id]
  /-- Every other document is as before. -/
  kept : ∀ collection other,
    other ≠ id ∨ (collection ≠ name ∧ collection ≠ settings.journalCollection) →
      (after.shelf collection).get? other = (store.shelf collection).get? other
  missing : name ≠ settings.journalCollection → ∀ hint elevated,
    (findById ⟨Store.backend, registry, settings⟩ name text [] ⟨hint, elevated, none⟩).on after =
      (.error (.resourceNotFound text name), after)
  /-- In the journal itself, the entry of this deletion is found in place of the deleted one. -/
  replaced : name = settings.journalCollection → ∃ schema, registry.get? name = some schema ∧
    ∀ hint elevated,
      (findById ⟨Store.backend, registry, settings⟩ name text [] ⟨hint, elevated, none⟩).on after =
        (.ok (Projection.applyTo
          (Plan.selection settings schema (settings.locales.resolve hint) elevated)
          (Journal.entry name now id)), after)

theorem deletes_of_delete {after : Store} {now : Timestamp} (keyed : store.Keyed)
    (known : registry.get? schema.name = some schema) (read : ObjectId.read? text = some id)
    (deleted : ((⟨schema, Store.backend, settings.journalCollection⟩ : Collection Store).delete now
      [id]).on store = (.ok (), after)) :
    Deletes registry settings store after schema.name text now id := by
  have keyed_after := keyed.of_deleted deleted
  have finds := findById_on keyed_after known read
  have contents := Collection.get?_of_deleted deleted
  have entered : (after.shelf settings.journalCollection).get? id =
      some (Journal.entry schema.name now id) := by simp [contents]
  refine ⟨?_, fun collection other apart => ?_, fun elsewhere hint elevated => ?_,
    fun own => ⟨schema, known, fun hint elevated => ?_⟩⟩
  · rw [keyed_after.values_filter_id?, entered]
    rfl
  · rw [contents]
    rcases apart with apart | ⟨apart, apart'⟩
    · simp [apart]
    · simp [Ne.symm apart, Ne.symm apart']
  · have gone : (after.shelf schema.name).get? id = none := by simp [contents, Ne.symm elsewhere]
    rw [finds hint elevated settings, gone]
    rfl
  · have found : (after.shelf schema.name).get? id = some (Journal.entry schema.name now id) := by
      simp [contents, own]
    rw [finds hint elevated settings, found]
    rfl

/-- The deletion of a document fails and leaves the store as it is, or it changes nothing but the
document and the journal's entry of its identifier. It succeeds exactly when the document is stored
in a registered collection. -/
theorem deleteById_changes_only (built : registry.Built) (reachable : store.Reachable)
    (settings : Settings) (name text : String) (now : Timestamp) :
    let run := (deleteById ⟨Store.backend, registry, settings⟩ name text now).on store
    (∀ error, run.1 = .error error → run.2 = store) ∧
      (run.1 = .ok () → ∃ id, ObjectId.read? text = some id ∧
        Deletes registry settings store run.2 name text now id) ∧
      (run.1 = .ok () ↔ ∃ id schema, ObjectId.read? text = some id ∧
        registry.get? name = some schema ∧ ((store.shelf name).get? id).isSome = true) := by
  intro run
  rcases deleteById_cases registry settings name text now store with
    ⟨error, failed, absent⟩ | ⟨id, schema, document, read, known, found, deletes⟩
  · have outcome : run = (.error error, store) := failed
    rw [outcome]
    refine ⟨fun _ _ => rfl, fun done => ?_, fun done => ?_, ?_⟩
    · cases done
    · cases done
    · rintro ⟨id, schema, read, known, stored⟩
      rw [← (built.get? known).2, absent id schema read known] at stored
      cases stored
  · have named := (built.get? known).2
    subst named
    obtain ⟨after, deleted, _⟩ :=
      Collection.delete_on schema settings.journalCollection store now [id]
    have outcome : run = (.ok (), after) := deletes.trans deleted
    rw [outcome]
    refine ⟨fun error failed => ?_, fun _ => ⟨id, read, ?_⟩, fun _ => ?_, fun _ => rfl⟩
    · cases failed
    · exact deletes_of_delete reachable.keyed known read deleted
    · exact ⟨id, schema, read, known, by rw [found]; rfl⟩

/-- The deletion of the post, whose author has the same identifier. -/
theorem deleteById_changes_only_newsroom :
    let run := (deleteById ⟨Store.backend, .newsroom, {}⟩ "post" "000000000000000000000001" ⟨3⟩).on
      (Store.newsroom [])
    Registry.newsroom.Built ∧ (Store.newsroom []).Reachable ∧ run.1 = .ok () ∧
      ∃ id, Deletes .newsroom {} (Store.newsroom []) run.2 "post" "000000000000000000000001" ⟨3⟩
        id := by
  have reachable : (Store.newsroom []).Reachable :=
    .insert "author" _ (.insert "post" _ .empty)
  have read : ObjectId.read? "000000000000000000000001" = some ⟨1⟩ := by decide
  have known : Registry.newsroom.get? "post" = some .post := rfl
  have stored : (((Store.newsroom []).shelf "post").get? ⟨1⟩).isSome = true := by decide +kernel
  obtain ⟨_, deletes, succeeds⟩ := deleteById_changes_only Registry.built_newsroom reachable {}
    "post" "000000000000000000000001" ⟨3⟩
  have done := succeeds.2 ⟨⟨1⟩, .post, read, known, stored⟩
  obtain ⟨id, -, only⟩ := deletes done
  exact ⟨Registry.built_newsroom, reachable, done, id, only⟩

def journaledPost : Store :=
  (Store.empty.insert defaultJournal [Journal.entry "post" ⟨3⟩ ⟨1⟩]).2

/-- Deleting the entry of a deletion from the journal leaves an entry under the same identifier. -/
theorem deleteById_finds_own_entry :
    let run := (deleteById ⟨Store.backend, .newsroom, {}⟩ defaultJournal "000000000000000000000001"
      ⟨4⟩).on journaledPost
    journaledPost.Reachable ∧ run.1 = .ok () ∧
      ((findById ⟨Store.backend, .newsroom, {}⟩ defaultJournal "000000000000000000000001" []
        {}).on run.2).1 = .ok (Journal.entry defaultJournal ⟨4⟩ ⟨1⟩) :=
  ⟨.insert defaultJournal _ .empty, ok_of_toOption (by decide +kernel),
    ok_of_toOption (by decide +kernel)⟩

end Service

end DocumentQuery
