import DocumentQuery.Assembly
import DocumentQuery.Proofs.Action
import DocumentQuery.Proofs.Population.Fetched
import DocumentQuery.Proofs.Projection.Identifier

/-! Identifiers of results. A selection copies or removes the identifier of a document, and an
expansion can only put a document in its place. So a document of a result has the identifier
that it is stored under, or none.
-/

set_option autoImplicit false

namespace DocumentQuery

namespace Value

variable {value : Value} {id : ObjectId}

theorem eq_of_mapDocuments {change : Document → Document}
    (same : value.mapDocuments change = .objectId id) : value = .objectId id := by
  cases value with
  | objectId own => exact same
  | _ => cases same

theorem eq_of_resolve {referent? : ObjectId → Option Document} {locale : Option String}
    (same : value.resolve referent? locale = .objectId id) : value = .objectId id := by
  cases value with
  | objectId own =>
    rw [resolve] at same
    split at same
    · cases same
    · exact same
  | array items =>
    rw [resolve] at same
    cases same
  | _ => cases same

end Value

namespace Document

variable {document : Document} {id : ObjectId}

theorem id?_eq_some_iff : document.id? = some id ↔ document.get? idKey = some (.objectId id) := by
  refine ⟨get?_idKey_of_id?, fun found => ?_⟩
  rw [id?, found]

theorem id?_of_modify {key : String} {change : Value → Value}
    (inert : ∀ value, change value = .objectId id → value = .objectId id)
    (named : (document.modify key change).id? = some id) : document.id? = some id := by
  rw [id?_eq_some_iff, get?_modify] at named
  rw [id?_eq_some_iff]
  split at named
  · obtain ⟨value, found, same⟩ := Option.map_eq_some_iff.1 named
    rw [found, inert value same]
  · exact named

theorem id?_of_without {path : Path} (named : (document.without path).id? = some id) :
    document.id? = some id := by
  rcases path with _ | ⟨key, _ | ⟨next, rest⟩⟩
  · exact named
  · rw [without, id?_eq_some_iff, get?_erase] at named
    split at named
    · cases named
    · exact id?_eq_some_iff.2 named
  · rw [without_cons_cons] at named
    exact id?_of_modify (fun value => Value.eq_of_mapDocuments) named

theorem id?_of_resolveAt {referent? : ObjectId → Option Document} {locale : Option String}
    {path : Path} (named : (document.resolveAt referent? locale path).id? = some id) :
    document.id? = some id := by
  rcases path with _ | ⟨key, _ | ⟨next, rest⟩⟩
  · exact named
  · exact id?_of_modify (fun value => Value.eq_of_resolve) named
  · rw [resolveAt] at named
    · exact id?_of_modify (fun value => Value.eq_of_mapDocuments) named
    · nofun

theorem id?_of_copyAt {path : Path} {source target : Document}
    (named : (copyAt path source target).id? = some id) :
    source.id? = some id ∨ target.id? = some id := by
  cases path with
  | nil => exact .inr named
  | cons key rest =>
    rw [id?_eq_some_iff] at named
    rw [id?_eq_some_iff, id?_eq_some_iff]
    unfold copyAt at named
    split at named
    · exact .inr named
    · rename_i value found
      rw [get?_set] at named
      split at named
      · rename_i same
        rw [← same, found]
        exact .inl named
      · exact .inr named
    · rw [get?_set] at named
      split at named
      · cases named
      · exact .inr named
    · rw [get?_set] at named
      split at named
      · cases named
      · exact .inr named
    · exact .inr named

end Document

theorem Projection.id?_of_applyTo {projection : Option Projection} {document : Document}
    {id : ObjectId} (named : (applyTo projection document).id? = some id) :
    document.id? = some id := by
  cases projection with
  | none => exact named
  | some projection =>
    rw [applyTo, apply] at named
    split at named
    · have start : (projection.idPart document).id? = some id → document.id? = some id := by
        intro named
        rw [idPart] at named
        split at named
        · rename_i found
          split at named
          · cases named
          · rw [Document.id?_eq_some_iff, found]
            simpa [Document.id?_eq_some_iff, Document.get?] using named
        · cases named
      generalize projection.idPart document = selected at start named
      generalize projection.paths true = paths at named
      induction paths generalizing selected with
      | nil => exact start named
      | cons path rest ih =>
        refine ih _ (fun copied => ?_) named
        rcases Document.id?_of_copyAt copied with here | there
        · exact here
        · exact start there
    · generalize projection.paths false = paths at named
      induction paths generalizing document with
      | nil => exact named
      | cons path rest ih => exact Document.id?_of_without (ih named)

namespace Population

variable {σ : Type} {backend : Backend σ} {state after : σ} {documents expanded : List Document}

theorem expand_ok {path : Path} {target : String} {projection : Option Projection}
    {locale : Option String} {count : Nat}
    (run : (expand backend documents path target projection locale).on state =
      (.ok (count, expanded), after)) :
    ∃ referents : Referents, expanded = documents.map (·.resolveAt referents.get? locale path) := by
  obtain ⟨referents, _, _, same⟩ := Action.on_bind_ok.1 run
  cases same
  exact ⟨referents, rfl⟩

theorem expandPath_ok {registry : Registry} {root : Schema} {locale : String}
    {set expanded : DocumentSet} {path : Path}
    (run : (expandPath backend registry root locale set path).on state = (.ok expanded, after)) :
    expanded = set ∨ ∃ referents : Referents,
      expanded = set.map (·.resolveAt referents.get? (some locale) path) := by
  rw [expandPath] at run
  split at run
  · split at run
    · cases run
      exact .inl rfl
    · obtain ⟨referents, _, _, same⟩ := Action.on_bind_ok.1 run
      cases same
      exact .inr ⟨referents, rfl⟩
  · cases run
    exact .inl rfl

section Invariants

variable {holds : Document → Prop}

/-- What holds of some documents, and goes on to hold when references are resolved, holds after
their expansion. -/
theorem forall_expandAll
    (resolved : ∀ referent? locale path document, holds document →
      holds (document.resolveAt referent? locale path))
    {directives : List Directive} (each : ∀ document ∈ documents, holds document)
    (run : (expandAll backend documents directives).on state = (.ok expanded, after)) :
    ∀ document ∈ expanded, holds document := by
  induction directives generalizing documents state with
  | nil =>
    cases run
    exact each
  | cons directive rest ih =>
    rw [expandAll] at run
    split at run
    · exact ih each run
    · obtain ⟨⟨count, next⟩, _, step, run⟩ := Action.on_bind_ok.1 run
      obtain ⟨referents, rfl⟩ := expand_ok step
      exact ih (List.forall_mem_map.2 fun document there => resolved _ _ _ _ (each document there))
        run

theorem forall_expandPaths
    (resolved : ∀ referent? locale path document, holds document →
      holds (document.resolveAt referent? locale path))
    {registry : Registry} {root : Schema} {locale : String} {paths : List String}
    {set : DocumentSet} (each : ∀ document ∈ set.toList, holds document) (state : σ) :
    ∀ document ∈
        ((expandPaths backend registry root locale paths set).run state).1.documents.toList,
      holds document := by
  induction paths generalizing set state with
  | nil => exact each
  | cons path rest ih =>
    rcases step : (expandPath backend registry root locale set (Path.ofText path)).on state with
      ⟨error | expanded, between⟩
    · -- A path that fails leaves the documents as the paths before it made them.
      rw [run_expandPaths_of_error rest step]
      exact each
    · rw [run_expandPaths_of_ok rest step]
      refine ih ?_ between
      rcases expandPath_ok step with rfl | ⟨referents, rfl⟩
      · exact each
      · rw [DocumentSet.toList_map]
        exact List.forall_mem_map.2 fun document there => resolved _ _ _ _ (each document there)

end Invariants

end Population

/-- What holds of the documents of a result, and goes on to hold when references are resolved, holds
after their deep expansion. -/
theorem Plan.forall_expandDeep {σ : Type} {backend : Backend σ} {state after : σ}
    {holds : Document → Prop}
    (resolved : ∀ referent? locale path document, holds document →
      holds (document.resolveAt referent? locale path))
    {plan : Plan} {registry : Registry} {set expanded : DocumentSet}
    (each : ∀ document ∈ set.toList, holds document)
    (run : (plan.expandDeep backend registry set).on state = (.ok expanded, after)) :
    ∀ document ∈ expanded.toList, holds document := by
  rw [expandDeep] at run
  split at run
  · cases run
    exact each
  · have all : ∀ document ∈ ((Population.deep backend registry plan.collection plan.locale
        plan.deepPaths set).run state).1.documents.toList, holds document := by
      rw [Population.deep]
      split
      · exact each
      · split
        · exact each
        · exact Population.forall_expandPaths resolved each state
    rw [Action.on_judged] at run
    simp only [Prod.mk.injEq] at run
    obtain ⟨judged, _⟩ := run
    split at judged
    · cases judged
    · cases judged
      exact all

end DocumentQuery
