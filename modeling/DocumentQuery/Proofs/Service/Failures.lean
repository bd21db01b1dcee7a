import DocumentQuery.Backend.Observed
import DocumentQuery.Proofs.Service.Requests
import DocumentQuery.Proofs.Store.Answers

/-! Whose fault a failure is. Everything that a client can get wrong is found while a
plan is compiled. From the first call on, a list request fails only through the store,
so a client error means that nothing was called.
-/

set_option autoImplicit false

namespace DocumentQuery

variable {σ α β : Type}

/-- An action never fails with an error that a client can cause. -/
def Action.Blameless (action : Action σ α) : Prop :=
  ∀ state error after, action.on state = (.error error, after) → error.isClientError = false

structure Backend.Blameless (backend : Backend σ) : Prop where
  get : ∀ ids collection projection, (backend.get ids collection projection).Blameless
  query : ∀ query collection, (∀ filter ∈ query.filter, filter.Readable) →
    (backend.query query collection).Blameless

namespace Action

theorem blameless_pure (a : α) : (pure a : Action σ α).Blameless := by
  intro state error after run
  cases run

theorem Blameless.bind {action : Action σ α} {next : α → Action σ β} (first : action.Blameless)
    (rest : ∀ a, (next a).Blameless) : (action >>= next).Blameless := by
  intro state error after run
  rcases on_bind_error.1 run with failed | ⟨a, between, _, failed⟩
  · exact first state error after failed
  · exact rest a between error after failed

end Action

theorem Store.blameless : Store.backend.Blameless where
  get := by
    intro ids collection projection state error after run
    cases run
  query := by
    intro query collection readable state error after run
    obtain ⟨documents, answered⟩ := state.exists_query readable collection
    have run : (state.query collection query, state) = (.error error, after) := run
    rw [answered] at run
    cases run

namespace Observed

theorem blameless_call {action : Action σ α} (refuses : List Call → Call → Bool) (call : Call)
    (inner : action.Blameless) : (Observed.call refuses call action).Blameless := by
  intro state error after run
  rw [on_call] at run
  split at run
  · cases run
    rfl
  · obtain ⟨failed, _⟩ := Prod.mk.inj run
    exact inner state.inner error (action.on state.inner).2 (Prod.ext failed rfl)

theorem blameless {backend : Backend σ} (inner : backend.Blameless)
    (refuses : List Call → Call → Bool) : (Observed.backend backend refuses).Blameless where
  get ids collection projection := blameless_call refuses _ (inner.get ids collection projection)
  query query collection readable :=
    blameless_call refuses _ (inner.query query collection readable)

end Observed

namespace Population

variable {backend : Backend σ}

theorem blameless_fetch (blameless : backend.Blameless) (documents : List Document) (path : Path)
    (target : String) (projection : Option Projection) :
    (fetch backend documents path target projection).Blameless := by
  rw [fetch]
  split
  · exact Action.blameless_pure _
  · exact (blameless.get _ _ _).bind fun _ => Action.blameless_pure _

theorem blameless_expandAll (blameless : backend.Blameless) (directives : List Directive)
    (documents : List Document) : (expandAll backend documents directives).Blameless := by
  induction directives generalizing documents with
  | nil => exact Action.blameless_pure _
  | cons directive rest ih =>
    rw [expandAll]
    split
    · exact ih documents
    · refine Action.Blameless.bind ?_ fun expanded => ih expanded.2
      exact (blameless_fetch blameless _ _ _ _).bind fun _ => Action.blameless_pure _

theorem blameless_expandPath (blameless : backend.Blameless) (registry : Registry) (root : Schema)
    (locale : String) (set : DocumentSet) (path : Path) :
    (expandPath backend registry root locale set path).Blameless := by
  rw [expandPath]
  split
  · split
    · exact Action.blameless_pure _
    · exact (blameless_fetch blameless _ _ _ _).bind fun _ => Action.blameless_pure _
  · exact Action.blameless_pure _

theorem failure_expandPaths (blameless : backend.Blameless) (registry : Registry) (root : Schema)
    (locale : String) (paths : List String) {set : DocumentSet} {state : σ} {error : AccessError}
    (failed : ((expandPaths backend registry root locale paths set).run state).1.failure =
      some error) : error.isClientError = false := by
  induction paths generalizing set state with
  | nil => cases failed
  | cons path rest ih =>
    have step := blameless_expandPath blameless registry root locale set (Path.ofText path) state
    rcases outcome : (expandPath backend registry root locale set (Path.ofText path)).on state with
      ⟨error' | expanded, between⟩
    · rw [run_expandPaths_of_error rest outcome] at failed
      cases failed
      exact step _ _ outcome
    · rw [run_expandPaths_of_ok rest outcome] at failed
      exact ih failed

end Population

namespace Plan

variable {backend : Backend σ} {registry : Registry}

theorem blameless_expandDeep (blameless : backend.Blameless) {plan : Plan} {schema : Schema}
    (known : registry.get? plan.collection = some schema) (set : DocumentSet) :
    (plan.expandDeep backend registry set).Blameless := by
  rcases expandDeep_cases known backend set with same | same
  · rw [same]
    exact Action.blameless_pure set
  · intro state error after run
    rw [same] at run
    obtain ⟨ended, _⟩ := Prod.mk.inj run
    exact Population.failure_expandPaths blameless registry schema _ _
      (Population.DeepRun.failure_of_error ended)

theorem blameless_assemble (blameless : backend.Blameless) {plan : Plan} {schema : Schema}
    (known : registry.get? plan.collection = some schema) (settings : Settings)
    (set : DocumentSet) : (plan.assemble backend registry settings set).Blameless := by
  rw [assemble]
  split
  · exact Action.blameless_pure _
  · refine (blameless_expandDeep blameless known set).bind fun expanded => ?_
    cases expanded with
    | one document => exact Action.blameless_pure _
    | many documents =>
      rw [addDeleted]
      split
      · exact Action.blameless_pure _
      · refine Action.Blameless.bind (blameless.query _ _ ?_) fun _ => Action.blameless_pure _
        -- The query for journal entries has no pattern.
        intro filter there
        cases there
        refine .all fun expr listed => ?_
        rcases List.mem_cons.1 listed with rfl | listed
        · exact .compare rfl
        · rw [List.mem_singleton.1 listed]
          exact .compare rfl

end Plan

namespace Service

theorem blameless_answer {service : Service σ} (blameless : service.backend.Blameless)
    {name : String} {parameters : Parameters} {context : Context} {schema : Schema} {plan : Plan}
    (planned : service.plan name parameters context = .ok plan) :
    (service.answer schema plan).Blameless := by
  have readable := Plan.readable_of_compile planned
  have known : ∃ own, service.registry.get? plan.collection = some own := by
    obtain ⟨own, _, _, found, _, _, rfl⟩ := Plan.compile_eq_ok_iff.1 planned
    exact ⟨own, found⟩
  obtain ⟨own, known⟩ := known
  rw [answer]
  refine Action.Blameless.bind ?_ fun documents => ?_
  · rw [Collection.exec]
    refine Action.Blameless.bind (blameless.query _ _ ?_) fun documents => ?_
    · exact readable
    · split
      · exact Action.blameless_pure _
      · exact Population.blameless_expandAll blameless _ _
  · exact (Plan.blameless_assemble blameless known _ _).bind fun _ => Action.blameless_pure _

/-- A list request that fails through the fault of the client has called nothing. And the filter of
a plan that compiles has a verdict on every document and can be written as an operator document. -/
theorem findAll_client_error (registry : Registry) (settings : Settings)
    (refuses : List Call → Call → Bool) (name : String) (parameters : Parameters)
    (context : Context) :
    (∀ before error after,
      (Service.findAll ⟨Observed.backend Store.backend refuses, registry, settings⟩ name parameters
        context).on before = (.error error, after) →
      error.isClientError = true → after = before) ∧
    ∀ plan, Plan.compile registry settings name parameters context = .ok plan →
      ∀ filter ∈ plan.query.filter,
        (∀ document cache, ∃ verdict, filter.evaluate document cache = .ok verdict) ∧
        ∃ document, OperatorDocument.ofExpr filter = .ok document := by
  constructor
  · intro before error after run client
    rcases findAll_cases (⟨Observed.backend Store.backend refuses, registry, settings⟩ :
      Service (Observed Store)) name parameters context with
      ⟨_, same⟩ | ⟨schema, plan, _, planned, same⟩
    · rw [same, Action.on_lift] at run
      cases run
      rfl
    · rw [same] at run
      have blameless := blameless_answer (Observed.blameless Store.blameless refuses) planned
        before error after run
      rw [client] at blameless
      cases blameless
  · intro plan compiled filter there
    have readable := Plan.readable_of_compile compiled filter there
    exact ⟨readable.exists_evaluate, OperatorDocument.exists_ofExpr readable⟩

/-- A filter by a text that is no identifier is refused before the journal is read, although every
call would fail. -/
theorem findAll_client_error_journal :
    ∃ error, (Service.findAll ⟨Observed.backend Store.backend fun _ _ => true, .bare, {}⟩
        defaultJournal [("filter[_id]", "x")] {}).on ⟨.empty, []⟩ = (.error error, ⟨.empty, []⟩) ∧
      error.isClientError = true := by
  have refused : ((Service.findAll ⟨Observed.backend Store.backend fun _ _ => true, .bare, {}⟩
      defaultJournal [("filter[_id]", "x")] {}).on ⟨.empty, []⟩).1 =
        .error (.invalidReference "x") := rfl
  have uncalled := (findAll_client_error .bare {} (fun _ _ => true) defaultJournal
    [("filter[_id]", "x")] {}).1 ⟨.empty, []⟩ _ _ (Prod.ext refused rfl) rfl
  exact ⟨_, Prod.ext refused uncalled, rfl⟩

end Service

end DocumentQuery
