import DocumentQuery.Proofs.Disclosure.Shape
import DocumentQuery.Proofs.Plan.Compiled
import DocumentQuery.Proofs.Population.Fetched

/-! Population without leaks. Each expansion loads the documents of a collection without
its hidden paths and puts them where the schemas lead to that collection, so one
expansion brings no leak, and a run of expansions brings none either.
-/

set_option autoImplicit false

namespace DocumentQuery

structure Registry.Guarded (registry : Registry) : Prop where
  built : registry.Built
  dotless : registry.Dotless
  conceals : registry.Conceals
  sparesStamp : registry.SparesStamp

def Registry.Protects (registry : Registry) (target : String) (projection : Option Projection) :
    Prop :=
  ∀ schema, registry.get? target = some schema →
    ∃ others, Projection.ExcludesExactly projection (schema.adminPaths.map Path.text ++ others)

namespace Registry

theorem protects_selectionOf (registry : Registry) (supported : List String)
    (locale target : String) :
    registry.Protects target (Population.selectionOf registry supported locale target) := by
  intro schema known
  refine ⟨(schema.variantPaths (supported.filter (· ≠ locale))).map Path.text, ?_⟩
  simp only [Population.selectionOf, known, Option.bind_eq_bind, Option.bind_some]
  exact Projection.excludesExactly_both (Projection.excludesExactly_hiding _)
    (Projection.excludesExactly_hiding _)

theorem protects_deepSelection (registry : Registry) (target : String) :
    registry.Protects target (Population.deepSelection registry target) := by
  intro schema known
  refine ⟨[], ?_⟩
  simp only [Population.deepSelection, known, Option.bind_some, List.append_nil]
  exact Projection.excludesExactly_hiding _

namespace Guarded

variable {registry : Registry} {store : Store}

theorem not_leaks_stored (guarded : registry.Guarded) (shaped : store.Shaped registry)
    {name : String} {schema : Schema} {document : Document} {projection : Option Projection}
    (known : registry.get? name = some schema) (stored : document ∈ (store.shelf name).values)
    (protects : registry.Protects name projection) :
    ¬ registry.Leaks schema (Projection.applyTo projection document) := by
  obtain ⟨others, excludes⟩ := protects schema known
  exact (shaped name schema known document stored).not_leaks_applyTo (guarded.built.get? known).1
    (guarded.dotless name schema known) (guarded.conceals name schema known) excludes

theorem leaks_expanded (guarded : registry.Guarded) (shaped : store.Shaped registry)
    {schema : Schema} {documents : List Document} {document : Document} {path : Path}
    {target : String} {projection : Option Projection} {locale : Option String}
    (leads : Population.deepTarget? registry schema path = some target)
    (protects : registry.Protects target projection)
    (leak : registry.Leaks schema (document.resolveAt
      (Population.referentsIn store documents path target projection).get? locale path)) :
    registry.Leaks schema document := by
  refine leaks_resolveAt ?_ leads leak
  intro origin id referent part known came same leak
  obtain ⟨stored, there, rfl⟩ := Population.mem_referentsIn came
  exact guarded.not_leaks_stored shaped known there protects
    (leaks_of_inserted (guarded.sparesStamp target origin known) same leak)

end Guarded

end Registry

namespace Population

/-- A directive whose target, if it has one, is the collection that its path leads to, and which
loads nothing hidden of it. -/
def Trusted (registry : Registry) (schema : Schema) (directive : Directive) : Prop :=
  ∀ target, directive.target = some target →
    deepTarget? registry schema (Path.ofText directive.path) = some target ∧
      registry.Protects target directive.projection

theorem trusted_directives {registry : Registry} {supported : List String} {locale : String}
    {schema : Schema} {parameters : Parameters} {directive : Directive}
    (there : directive ∈ directives registry supported locale schema parameters) :
    Trusted registry schema directive := by
  obtain ⟨path, _, rfl⟩ := List.mem_map.1 there
  intro target named
  rw [Population.directive] at named ⊢
  split at named
  · cases named
  · rename_i target refers
    cases named
    obtain ⟨type, typed, refers⟩ := Option.bind_eq_some_iff.1 refers
    exact ⟨Registry.deepTarget?_of_typeAt? registry typed refers,
      registry.protects_selectionOf supported locale target⟩

end Population

namespace Plan

variable {registry : Registry} {settings : Settings} {name : String} {parameters : Parameters}
  {context : Context} {plan : Plan}

/-- Without privileges, the plan of a request loads nothing hidden of its collection. -/
theorem protects_of_compile (planned : compile registry settings name parameters context = .ok plan)
    (unprivileged : context.elevated = false) : registry.Protects name plan.query.projection := by
  obtain ⟨schema, since, clauses, known, _, _, rfl⟩ := compile_eq_ok_iff.1 planned
  intro again found
  rw [known] at found
  cases found
  refine ⟨_, Projection.excludesExactly_both ?_ (Projection.excludesExactly_hiding _)⟩
  rw [unprivileged]
  exact Projection.excludesExactly_hiding _

theorem trusted_of_compile (planned : compile registry settings name parameters context = .ok plan)
    {schema : Schema} (known : registry.get? name = some schema) :
    ∀ directive ∈ plan.query.populate, Population.Trusted registry schema directive := by
  obtain ⟨again, since, clauses, found, _, _, rfl⟩ := compile_eq_ok_iff.1 planned
  rw [known] at found
  cases found
  exact fun directive there => Population.trusted_directives there

end Plan

namespace Population

variable {registry : Registry} {schema : Schema} {store after : Store}

theorem expandAll_tight (guarded : registry.Guarded) (shaped : store.Shaped registry)
    {directives : List Directive} {documents expanded : List Document}
    (trusted : ∀ directive ∈ directives, Trusted registry schema directive)
    (tight : ∀ document ∈ documents, ¬ registry.Leaks schema document)
    (run : (expandAll Store.backend documents directives).on store = (.ok expanded, after)) :
    after = store ∧ ∀ document ∈ expanded, ¬ registry.Leaks schema document := by
  induction directives generalizing documents with
  | nil =>
    cases run
    exact ⟨rfl, tight⟩
  | cons directive rest ih =>
    have others := fun other there => trusted other (List.mem_cons_of_mem _ there)
    rw [expandAll] at run
    split at run
    · exact ih others tight run
    · rename_i target named
      obtain ⟨leads, protects⟩ := trusted directive List.mem_cons_self target named
      rw [Action.on_bind, expand_on] at run
      refine ih others ?_ run
      intro document there leak
      obtain ⟨before, listed, rfl⟩ := List.mem_map.1 there
      exact tight before listed (guarded.leaks_expanded shaped leads protects leak)

theorem expandPath_tight (guarded : registry.Guarded) (shaped : store.Shaped registry)
    (locale : String) {set : DocumentSet} (path : Path)
    (tight : ∀ document ∈ set.toList, ¬ registry.Leaks schema document) :
    ∃ expanded, (expandPath Store.backend registry schema locale set path).on store =
        (.ok expanded, store) ∧
      ∀ document ∈ expanded.toList, ¬ registry.Leaks schema document := by
  rw [expandPath]
  split
  · split
    · exact ⟨set, rfl, tight⟩
    · rename_i target leads
      rw [Action.on_bind, fetch_on]
      refine ⟨_, rfl, ?_⟩
      intro document there leak
      rw [DocumentSet.toList_map] at there
      obtain ⟨before, listed, rfl⟩ := List.mem_map.1 there
      exact tight before listed
        (guarded.leaks_expanded shaped leads (registry.protects_deepSelection target) leak)
  · exact ⟨set, rfl, tight⟩

theorem expandPaths_tight (guarded : registry.Guarded) (shaped : store.Shaped registry)
    (locale : String) (paths : List String) {set : DocumentSet}
    (tight : ∀ document ∈ set.toList, ¬ registry.Leaks schema document) :
    ∃ expanded, (expandPaths Store.backend registry schema locale paths set).run store =
        ({ documents := expanded }, store) ∧
      ∀ document ∈ expanded.toList, ¬ registry.Leaks schema document := by
  induction paths generalizing set with
  | nil => exact ⟨set, rfl, tight⟩
  | cons path rest ih =>
    obtain ⟨between, step, tight⟩ := expandPath_tight guarded shaped locale (Path.ofText path) tight
    obtain ⟨expanded, run, tight⟩ := ih tight
    refine ⟨expanded, ?_, tight⟩
    rw [run_expandPaths_of_ok rest step]
    exact run

end Population

end DocumentQuery
