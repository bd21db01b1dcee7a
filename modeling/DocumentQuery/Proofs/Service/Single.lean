import DocumentQuery.Proofs.Filter.Identifier
import DocumentQuery.Proofs.Population.Paths
import DocumentQuery.Proofs.Service.Requests
import DocumentQuery.Proofs.Store.Answers

/-! Requests for one document. A document is loaded by its identifier just as the list
request gives it that also filters by the identifier: the same documents are selected,
at most one of them is stored, and it is expanded by itself as it is in a list. Only a
list that is empty is an error for the one request and none for the other.
-/

set_option autoImplicit false

namespace DocumentQuery

def Expr.byId (id : ObjectId) : Expr :=
  .compare idKey .eq (.objectId id)

namespace Plan

/-- A request and the one that also filters by an identifier are refused alike, or the plan of the
second has one more predicate than the plan of the first. -/
theorem compile_byId {registry : Registry} {settings : Settings} {name text : String}
    {schema : Schema} {parameters : Parameters} {context : Context} {id : ObjectId}
    (keyed : settings.primaryKey = idKey) (known : registry.get? name = some schema)
    (identified : (schema.fieldType? idKey).any (·.isIdentifier) = true)
    (unskipped : parameters.contains "skip" = false) (unbounded : context.updatesSince = none)
    (read : ObjectId.read? text = some id) :
    (∃ error, error.kind = .invalidArgument ∧
      compile registry settings name parameters context = .error error ∧
      compile registry settings name (parameters ++ [("filter[id]", text)]) context =
        .error error) ∨
    ∃ plan exprs, compile registry settings name parameters context = .ok plan ∧
      compile registry settings name (parameters ++ [("filter[id]", text)]) context =
        .ok { plan with query.filter := Draft.filterOf (exprs ++ [.byId id]) } ∧
      plan.query.filter = Draft.filterOf exprs ∧ plan.query.skip = some 0 ∧
      plan.collection = name ∧ plan.sync = none := by
  have refuses := @Filter.onlyInvalid_compile idKey schema
    (Reading.ofParameters settings parameters).filters
  rw [compile_eq, compile_eq, Reading.ofParameters_byId, unbounded, keyed,
    Registry.schema_ok.2 known]
  simp only [bound?, Filter.compile_append, Filter.compile_byId identified read, bind, Except.bind,
    pure, Except.pure]
  cases compiled : Filter.compile idKey schema
      (Reading.ofParameters settings parameters).filters with
  | error error => exact .inl ⟨error, refuses error compiled, rfl, rfl⟩
  | ok clauses =>
    refine .inr ⟨_, clauses.map Clause.predicate, rfl, ?_, rfl, ?_, rfl, rfl⟩
    · simp only [ofReading, List.map_append]
      rfl
    · exact congrArg some (Reading.skip_of_absent unskipped settings)

section Assembly

variable {registry : Registry} {root : Schema} {plan : Plan}

theorem expandDeep_on (known : registry.get? plan.collection = some root) (store : Store)
    {documents : List Document} (filled : documents.isEmpty = false) :
    ∃ change : Document → Document, ∀ set : DocumentSet, set.toList = documents →
      (plan.expandDeep Store.backend registry set).on store = (.ok (set.map change), store) := by
  by_cases shallow : plan.deepPaths.isEmpty = true
  · refine ⟨id, fun set _ => ?_⟩
    rw [expandDeep, if_pos shallow, DocumentSet.map_id, Action.on_pure]
  · obtain ⟨change, run⟩ :=
      Population.expandPaths_on store registry root plan.locale plan.deepPaths documents
    refine ⟨change, fun set listed => ?_⟩
    rw [expandDeep, if_neg shallow, Population.deep, DocumentSet.isEmpty, listed, filled,
      Registry.schema_ok.2 known]
    simp only [Bool.false_eq_true, if_false, Action.on_judged, run set listed]

/-- The assembly of a result that is no sync result changes documents one by one, whether they come
as one or as a list. -/
theorem assemble_on (known : registry.get? plan.collection = some root)
    (unsynced : plan.sync = none) (settings : Settings) (store : Store)
    {documents : List Document} (filled : documents.isEmpty = false) :
    ∃ change : Document → Document, ∀ set : DocumentSet, set.toList = documents →
      (plan.assemble Store.backend registry settings set).on store =
        (.ok (set.map change), store) := by
  obtain ⟨change, run⟩ := expandDeep_on known store filled
  refine ⟨change, fun set listed => ?_⟩
  rw [assemble, DocumentSet.isEmpty, listed, filled]
  simp only [Bool.false_eq_true, if_false, Action.on_bind, run set listed,
    addDeleted_of_unsynced unsynced, Action.on_pure]

end Assembly

end Plan

namespace Service

theorem exists_filter_queryById {query : Query} {exprs : List Expr}
    (joined : query.filter = Draft.filterOf exprs) (id : ObjectId) :
    ∃ filter, (queryById query id).filter = some filter ∧ ∀ document cache,
      filter.evaluate document cache =
        Expr.evaluateAll document cache (exprs ++ [.byId id]) := by
  cases found : query.filter with
  | none =>
    rw [found] at joined
    have bare : exprs = [] := by
      rcases exprs with _ | ⟨first, _ | ⟨second, rest⟩⟩
      · rfl
      · cases joined
      · cases joined
    refine ⟨.byId id, by rw [queryById, found]; rfl, fun document cache => ?_⟩
    rw [bare, List.nil_append, Expr.evaluateAll_singleton]
  | some filter =>
    rw [found] at joined
    refine ⟨.all [filter, .byId id], by rw [queryById, found]; rfl, fun document cache => ?_⟩
    rw [Expr.evaluate, ← List.singleton_append, Expr.evaluateAll_append,
      Expr.evaluateAll_append, Expr.evaluateAll_singleton,
      Expr.evaluate_of_filterOf joined.symm]

/-- The query for one document and the query that also filters by its identifier have the same
answer, which is one document at most. -/
theorem query_byId {store : Store} (keyed : store.Keyed) {query : Query} {exprs : List Expr}
    {id : ObjectId} (joined : query.filter = Draft.filterOf exprs) (first : query.skip = some 0)
    (readable : ∀ filter ∈ Draft.filterOf (exprs ++ [.byId id]), filter.Readable)
    (collection : String) :
    ∃ documents : List Document, documents.length ≤ 1 ∧
      store.query collection (queryById query id) = .ok documents ∧
      store.query collection
        { query with filter := Draft.filterOf (exprs ++ [.byId id]) } = .ok documents := by
  obtain ⟨filter, own, means⟩ := exists_filter_queryById joined id
  obtain ⟨other, listed⟩ : ∃ other, Draft.filterOf (exprs ++ [.byId id]) = some other := by
    rcases exprs with _ | ⟨expr, _ | ⟨next, rest⟩⟩
    · exact ⟨_, rfl⟩
    · exact ⟨_, rfl⟩
    · exact ⟨_, rfl⟩
  have means' := Expr.evaluate_of_filterOf listed
  obtain ⟨selected, answered'⟩ :=
    (readable other listed).exists_selectFrom (store.shelf collection).values []
  have answered : filter.select (store.shelf collection).values = .ok selected := by
    rw [Expr.select, Expr.selectFrom_congr fun document cache =>
      (means document cache).trans (means' document cache).symm]
    exact answered'
  have identifies := Expr.identifies_of_evaluateAll means
  refine ⟨selected.map (Projection.applyTo query.projection), ?_,
    keyed.query_eq identifies own rfl answered,
    keyed.query_eq (Expr.identifies_of_evaluateAll means') listed ?_ answered'⟩
  · rw [List.length_map]
    exact keyed.length_selected_le identifies answered
  · simp [first]

def answerById {σ : Type} (service : Service σ) (schema : Schema) (plan : Plan) (name text : String)
    (id : ObjectId) : Action σ Document := do
  let documents ← (⟨schema, service.backend, service.settings.journalCollection⟩ :
    Collection σ).exec (queryById plan.query id)
  let document ← Action.lift (firstOf text name documents)
  let set ← service.assemble plan (.one document)
  Action.lift (firstOf text name set.toList)

section Request

variable {registry : Registry} {settings : Settings} {name text : String} {schema : Schema}
  {parameters : Parameters} {context : Context} {id : ObjectId}

theorem findById_eq {σ : Type} (service : Service σ)
    (known : service.registry.get? name = some schema) (read : ObjectId.read? text = some id) :
    service.findById name text parameters context =
      Action.lift (service.plan name parameters context) >>= fun plan =>
        service.answerById schema plan name text id := by
  rw [findById, if_neg (by simp [ObjectId.isEmpty_of_read read]), readId, read,
    Service.collection, Registry.schema_ok.2 known]
  rfl

/-- What is answered to a request for one document is the only one of a list, or that there is none
in an empty list. -/
theorem answerById_cases {store : Store} (keyed : store.Keyed) {plan : Plan} {exprs : List Expr}
    {root : Schema} (joined : plan.query.filter = Draft.filterOf exprs)
    (first : plan.query.skip = some 0)
    (readable : ∀ filter ∈ Draft.filterOf (exprs ++ [.byId id]), filter.Readable)
    (known : registry.get? plan.collection = some root) (unsynced : plan.sync = none)
    (settings : Settings) (schema : Schema) (name text : String) :
    let service : Service Store := ⟨Store.backend, registry, settings⟩
    let listed : Plan := { plan with query.filter := Draft.filterOf (exprs ++ [.byId id]) }
    (∃ document,
      (service.answerById schema plan name text id).on store = (.ok document, store) ∧
      (service.answer schema listed).on store = (.ok [document], store)) ∨
    ((service.answerById schema plan name text id).on store =
        (.error (.resourceNotFound text name), store) ∧
      (service.answer schema listed).on store = (.ok [], store)) := by
  intro service listed
  obtain ⟨documents, few, answered, answered'⟩ :=
    query_byId keyed joined first readable schema.name
  obtain ⟨change, expanded⟩ := Population.expandAll_on store documents plan.query.populate
  have one_run : ((⟨schema, Store.backend, settings.journalCollection⟩ : Collection Store).exec
      (queryById plan.query id)).on store = (.ok (documents.map change), store) := by
    rw [Collection.exec_on, answered]
    exact expanded
  have all_run : ((⟨schema, Store.backend, settings.journalCollection⟩ : Collection Store).exec
      listed.query).on store = (.ok (documents.map change), store) := by
    rw [Collection.exec_on, answered']
    exact expanded
  simp only [answerById, answer, Action.on_bind, service, one_run, all_run]
  rcases documents with _ | ⟨document, _ | ⟨second, rest⟩⟩
  · exact .inr ⟨rfl, rfl⟩
  · have filled : [change document].isEmpty = false := rfl
    obtain ⟨whole, assembled⟩ := Plan.assemble_on known unsynced settings store filled
    have one := assembled (.one (change document)) rfl
    have many : (listed.assemble Store.backend registry settings
        (.many [change document])).on store = (.ok (.many [whole (change document)]), store) :=
      assembled (.many [change document]) rfl
    refine .inl ⟨whole (change document), ?_, ?_⟩
    · simp only [List.map_cons, firstOf, Action.on_lift, assemble, one, DocumentSet.map,
        DocumentSet.toList]
    · simp only [List.map_cons, List.map_nil, assemble, many, Action.on_pure,
        DocumentSet.toList]
  · exact absurd few (by simp)

/-- A request for one document gives the document that makes up the list of the request that also
filters by its identifier. It fails where this list is empty, and where that request fails. -/
theorem findById_cases {store : Store} (reachable : store.Reachable)
    (keyed : settings.primaryKey = idKey) (known : registry.get? name = some schema)
    (identified : (schema.fieldType? idKey).any (·.isIdentifier) = true)
    (unskipped : parameters.contains "skip" = false) (unbounded : context.updatesSince = none)
    (read : ObjectId.read? text = some id) :
    ∃ one all,
      (findById ⟨Store.backend, registry, settings⟩ name text parameters context).on store =
        (one, store) ∧
      (findAll ⟨Store.backend, registry, settings⟩ name (parameters ++ [("filter[id]", text)])
        context).on store = (all, store) ∧
      ((∃ document, one = .ok document ∧ all = .ok [document]) ∨
        (one = .error (.resourceNotFound text name) ∧ all = .ok []) ∨
        ∃ error, error.kind = .invalidArgument ∧ one = .error error ∧ all = .error error) := by
  let service : Service Store := ⟨Store.backend, registry, settings⟩
  rw [findById_eq service known read, Action.on_bind, Action.on_lift, Service.plan]
  rcases Plan.compile_byId keyed known identified unskipped unbounded read with
    ⟨error, invalid, refused, refused'⟩ |
      ⟨plan, exprs, planned, planned', joined, first, named, unsynced⟩
  · refine ⟨.error error, .error error, ?_, ?_, .inr (.inr ⟨error, invalid, rfl, rfl⟩)⟩
    · rw [refused]
    · rw [findAll, Service.collection, Registry.schema_ok.2 known, Service.plan, refused']
      rfl
  · have asked := @findAll_eq_answer _ service name _ context schema _ known planned'
    have readable := Plan.readable_of_compile planned'
    rw [planned, asked]
    rcases answerById_cases reachable.keyed joined first readable (named ▸ known) unsynced settings
      schema name text with ⟨document, one, all⟩ | ⟨one, all⟩
    · exact ⟨_, _, one, all, .inl ⟨document, rfl, rfl⟩⟩
    · exact ⟨_, _, one, all, .inr (.inl ⟨rfl, rfl⟩)⟩

/-- Loading a document by its identifier agrees with the list request that also filters by the
identifier: the one gives a document exactly when the other gives the list of it, the one finds
nothing exactly when the other gives the empty list, and otherwise both fail alike. -/
theorem findById_agrees {store : Store} (reachable : store.Reachable)
    (keyed : settings.primaryKey = idKey) (known : registry.get? name = some schema)
    (identified : (schema.fieldType? idKey).any (·.isIdentifier) = true)
    (unskipped : parameters.contains "skip" = false) (unbounded : context.updatesSince = none)
    (read : ObjectId.read? text = some id) :
    let service : Service Store := ⟨Store.backend, registry, settings⟩
    let one := ((service.findById name text parameters context).on store).1
    let all := ((service.findAll name (parameters ++ [("filter[id]", text)]) context).on store).1
    (∀ document, one = .ok document ↔ all = .ok [document]) ∧
      (one = .error (.resourceNotFound text name) ↔ all = .ok []) ∧
      ((∀ document, one ≠ .ok document) → all ≠ .ok [] →
        ∃ error, error.kind ≠ .resourceNotFound ∧ one = .error error ∧ all = .error error) := by
  obtain ⟨one, all, found, listed, outcome⟩ :=
    findById_cases reachable keyed known identified unskipped unbounded read
  simp only [found, listed]
  rcases outcome with ⟨document, rfl, rfl⟩ | ⟨rfl, rfl⟩ | ⟨error, invalid, rfl, rfl⟩
  · refine ⟨fun other => ?_, ?_, fun none_found => absurd rfl (none_found document)⟩
    · simp
    · simp
  · refine ⟨fun document => ?_, ?_, fun _ filled => absurd rfl filled⟩
    · simp
    · simp
  · have other : error.kind ≠ .resourceNotFound := by
      rw [invalid]
      decide
    refine ⟨fun document => ?_, ?_, fun _ _ => ⟨error, other, rfl, rfl⟩⟩
    · simp
    · refine ⟨fun same => ?_, nofun⟩
      cases same
      exact absurd rfl other

end Request

end Service

def Schema.member : Schema :=
  ⟨"user", [.plain idKey (.primitive .objectId), .plain "name" (.primitive .string)]⟩

def Registry.members : Registry :=
  ⟨⟨[(defaultJournal, .journal defaultJournal), ("user", .member)], by decide⟩⟩

namespace Service

/-- The user is found by the identifier, among those with a name. -/
theorem findById_agrees_user :
    Population.users.Reachable ∧ ({} : Settings).primaryKey = idKey ∧
      Registry.members.get? "user" = some .member ∧
      (Schema.member.fieldType? idKey).any (·.isIdentifier) = true ∧
      Parameters.contains [("filter[name]", "*")] "skip" = false ∧
      ({} : Context).updatesSince = none ∧
      ObjectId.read? "000000000000000000000001" = some ⟨1⟩ ∧
      ((findById ⟨Store.backend, .members, {}⟩ "user" "000000000000000000000001"
        [("filter[name]", "*")] {}).on Population.users).1 = .ok Population.user ∧
      ((findAll ⟨Store.backend, .members, {}⟩ "user"
        [("filter[name]", "*"), ("filter[id]", "000000000000000000000001")] {}).on
          Population.users).1 = .ok [Population.user] := by
  have reachable : Population.users.Reachable := .insert "user" [Population.user] .empty
  have known : Registry.members.get? "user" = some .member := rfl
  have identified : (Schema.member.fieldType? idKey).any (·.isIdentifier) = true := rfl
  have unskipped : Parameters.contains [("filter[name]", "*")] "skip" = false := by decide
  have read : ObjectId.read? "000000000000000000000001" = some ⟨1⟩ := by decide
  have found : ((findById ⟨Store.backend, .members, {}⟩ "user" "000000000000000000000001"
      [("filter[name]", "*")] {}).on Population.users).1 = .ok Population.user :=
    ok_of_toOption (by decide +kernel)
  have agrees := @findById_agrees .members {} "user" "000000000000000000000001" .member
    [("filter[name]", "*")] {} ⟨1⟩ Population.users reachable rfl known identified unskipped rfl
    read
  exact ⟨reachable, rfl, known, identified, unskipped, rfl, read, found,
    (agrees.1 Population.user).1 found⟩

end Service

end DocumentQuery
