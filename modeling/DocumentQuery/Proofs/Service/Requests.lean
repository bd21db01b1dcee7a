import DocumentQuery.Proofs.Action
import DocumentQuery.Proofs.Plan.Compiled
import DocumentQuery.Proofs.Population.Fetched
import DocumentQuery.Proofs.Schema.Registered
import DocumentQuery.Service

/-! Runs of list requests. A list request compiles its plan before it calls the backend;
from then on it is the query of the plan, the shallow expansion of its answer and the
assembly of the result.
-/

set_option autoImplicit false

namespace DocumentQuery

theorem Collection.exec_on (schema : Schema) (journal : String) (query : Query) (store : Store) :
    ((⟨schema, Store.backend, journal⟩ : Collection Store).exec query).on store =
      match store.query schema.name query with
      | .ok documents => (Population.expandAll Store.backend documents query.populate).on store
      | .error error => (.error error, store) := by
  have answered : (Store.backend.query { query with populate := [] } schema.name).on store =
      (store.query schema.name query, store) := rfl
  rw [exec, Action.on_bind, Collection.name, answered]
  cases store.query schema.name query with
  | error error => rfl
  | ok documents =>
    cases documents with
    | nil =>
      obtain ⟨change, run⟩ := Population.expandAll_on store [] query.populate
      exact run.symm
    | cons document rest => rfl

theorem Collection.exec_ok {schema : Schema} {journal : String} {query : Query}
    {store after : Store} {documents : List Document}
    (run : ((⟨schema, Store.backend, journal⟩ : Collection Store).exec query).on store =
      (.ok documents, after)) :
    ∃ queried, store.query schema.name query = .ok queried ∧
      (Population.expandAll Store.backend queried query.populate).on store =
        (.ok documents, after) := by
  rw [exec_on] at run
  split at run
  · rename_i queried found
    exact ⟨queried, found, run⟩
  · cases run

/-- For a registered collection, deep expansion does nothing or comes to the result of expanding the
paths of the plan. -/
theorem Plan.expandDeep_cases {σ : Type} {registry : Registry} {root : Schema} {plan : Plan}
    (known : registry.get? plan.collection = some root) (backend : Backend σ) (set : DocumentSet) :
    plan.expandDeep backend registry set = pure set ∨
      ∀ state, (plan.expandDeep backend registry set).on state =
        ((Population.expandPaths backend registry root plan.locale plan.deepPaths set).run
          state).map Population.DeepRun.result id := by
  rw [expandDeep]
  split
  · exact .inl rfl
  · rw [Population.deep, Registry.schema_ok.2 known]
    split
    · exact .inl rfl
    · exact .inr fun state => rfl

theorem Plan.addDeleted_of_unsynced {σ : Type} {plan : Plan} (unsynced : plan.sync = none)
    (backend : Backend σ) (journal : String) (set : DocumentSet) :
    plan.addDeleted backend journal set = pure set := by
  cases set <;> simp [addDeleted, unsynced]

namespace Service

variable {σ : Type}

def answer (service : Service σ) (schema : Schema) (plan : Plan) : Action σ (List Document) := do
  let documents ← (⟨schema, service.backend, service.settings.journalCollection⟩ :
    Collection σ).exec plan.query
  return (← service.assemble plan (.many documents)).toList

theorem answer_ok {service : Service σ} {schema : Schema} {plan : Plan} {state after : σ}
    {documents : List Document} :
    (service.answer schema plan).on state = (.ok documents, after) ↔
      ∃ expanded between set,
        ((⟨schema, service.backend, service.settings.journalCollection⟩ : Collection σ).exec
          plan.query).on state = (.ok expanded, between) ∧
        (service.assemble plan (.many expanded)).on between = (.ok set, after) ∧
        documents = set.toList := by
  rw [answer, Action.on_bind_ok]
  constructor
  · rintro ⟨expanded, between, exec, run⟩
    obtain ⟨set, last, assembled, same⟩ := Action.on_bind_ok.1 run
    rw [Action.on_pure, Prod.mk.injEq, Except.ok.injEq] at same
    exact ⟨expanded, between, set, exec, same.2 ▸ assembled, same.1.symm⟩
  · rintro ⟨expanded, between, set, exec, assembled, rfl⟩
    exact ⟨expanded, between, exec, Action.on_bind_ok.2 ⟨set, after, assembled, rfl⟩⟩

theorem findAll_eq_answer {service : Service σ} {name : String} {parameters : Parameters}
    {context : Context} {schema : Schema} {plan : Plan}
    (known : service.registry.get? name = some schema)
    (planned : service.plan name parameters context = .ok plan) :
    service.findAll name parameters context = service.answer schema plan := by
  rw [findAll, Service.collection, Registry.schema, known, planned]
  rfl

/-- A list request fails before any call, or has a plan that it answers. -/
theorem findAll_cases (service : Service σ) (name : String) (parameters : Parameters)
    (context : Context) :
    (∃ error, service.findAll name parameters context = Action.lift (.error error)) ∨
      ∃ schema plan, service.registry.get? name = some schema ∧
        service.plan name parameters context = .ok plan ∧
        service.findAll name parameters context = service.answer schema plan := by
  cases known : service.registry.get? name with
  | none =>
    rw [findAll, Service.collection, Registry.schema, known]
    exact .inl ⟨_, rfl⟩
  | some schema =>
    cases planned : service.plan name parameters context with
    | error error =>
      rw [findAll, Service.collection, Registry.schema, known, planned]
      exact .inl ⟨error, rfl⟩
    | ok plan => exact .inr ⟨schema, plan, rfl, rfl, findAll_eq_answer known planned⟩

theorem findAll_ok {service : Service σ} {name : String} {parameters : Parameters}
    {context : Context} {state after : σ} {documents : List Document}
    (run : (service.findAll name parameters context).on state = (.ok documents, after)) :
    ∃ schema plan, service.registry.get? name = some schema ∧
      service.plan name parameters context = .ok plan ∧
      (service.answer schema plan).on state = (.ok documents, after) := by
  rcases service.findAll_cases name parameters context with
    ⟨error, same⟩ | ⟨schema, plan, known, planned, same⟩
  · rw [same, Action.on_lift] at run
    cases run
  · exact ⟨schema, plan, known, planned, same ▸ run⟩

end Service

end DocumentQuery
