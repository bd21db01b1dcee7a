import DocumentQuery.Plan

/-! Compiled plans. What the stages of compilation read from the parameters does not
depend on the schema, so a plan can be put together at once from this reading and the
compiled clauses; compilation gives exactly the plans put together so.
-/

set_option autoImplicit false

namespace DocumentQuery

def Clause.predicate (clause : Clause) : Expr :=
  match clause.combinator with
  | .independent => clause.expr
  | .and => .all [clause.expr]
  | .or => .any [clause.expr]

theorem Clause.addAll_eq (draft : Draft) (clauses : List Clause) :
    addAll draft clauses =
      { draft with predicates := draft.predicates ++ clauses.map predicate } := by
  induction clauses generalizing draft with
  | nil => simp [addAll]
  | cons clause rest ih =>
    have step : addTo draft clause =
        { draft with predicates := draft.predicates ++ [clause.predicate] } := by
      unfold addTo predicate
      cases clause.combinator <;> rfl
    change addAll (addTo draft clause) rest = _
    rw [ih, step]
    simp

theorem Draft.foldl_populating (draft : Draft) (directives : List Directive) :
    directives.foldl populating draft =
      { draft with query.populate := draft.query.populate ++ directives } := by
  induction directives generalizing draft with
  | nil => simp
  | cons directive rest ih =>
    rw [List.foldl_cons, ih]
    simp [populating]

theorem Draft.foldl_sorted (draft : Draft) (keys : List SortKey) :
    keys.foldl sorted draft = { draft with query.sort := draft.query.sort ++ keys } := by
  induction keys generalizing draft with
  | nil => simp
  | cons key rest ih =>
    rw [List.foldl_cons, ih]
    simp [sorted]

namespace Plan

structure Reading where
  page : Page
  references : Parameters
  sorts : List String
  filters : Parameters
  deep : List String

def Reading.ofParameters (settings : Settings) (parameters : Parameters) : Reading :=
  let (deep, parameters) := parameters.take "populatedeep"
  let (page, parameters) := Page.extract settings parameters
  let (references, parameters) := parameters.takeFamily Population.root
  let (sorts, parameters) := parameters.take "sort"
  let (filters, _) := parameters.takeFamily Filter.root
  ⟨page, references, sorts, filters, deep⟩

def syncCondition (settings : Settings) (since : Timestamp) : Expr :=
  .compare settings.updatedField .gte (.date since)

/-- The selection of a plan: what the caller may not read, and the variants for other locales. -/
def selection (settings : Settings) (schema : Schema) (locale : String) (elevated : Bool) :
    Option Projection :=
  Projection.both? (if elevated then none else schema.adminExclusions?)
    (schema.localeExclusions? locale settings.locales.supported)

def ofReading (registry : Registry) (settings : Settings) (schema : Schema) (collection : String)
    (context : Context) (reading : Reading) (since : Option Timestamp) (clauses : List Clause) :
    Plan :=
  let locale := settings.locales.resolve context.localeHint
  { collection
    query :=
      { filter := Draft.filterOf
          ((since.map (syncCondition settings)).toList ++ clauses.map Clause.predicate)
        limit := some reading.page.limit
        skip := some reading.page.skip
        sort := SortKey.ofValues reading.sorts
        projection := selection settings schema locale context.elevated
        populate := Population.directives registry settings.locales.supported locale schema
          reading.references }
    deepPaths := reading.deep.flatMap Text.words
    locale
    sync := since.map fun since => ⟨collection, since⟩ }

theorem start_eq (settings : Settings) (schema : Schema) (locale : String) (elevated : Bool)
    (since : Option Timestamp) :
    start settings schema locale elevated since =
      { predicates := (since.map (syncCondition settings)).toList
        query.projection := selection settings schema locale elevated } := by
  cases since <;> simp [start, syncCondition, selection, Draft.filtered]

/-- Compilation reads the parameters at once. It can fail over the collection, over the bound and
over the filters, in this order. -/
theorem compile_eq (registry : Registry) (settings : Settings) (collection : String)
    (parameters : Parameters) (context : Context) :
    compile registry settings collection parameters context = do
      let schema ← registry.schema collection
      let since ← bound? context.updatesSince
      let reading := Reading.ofParameters settings parameters
      let clauses ← Filter.compile settings.primaryKey schema reading.filters
      return ofReading registry settings schema collection context reading since clauses := by
  simp only [compile, applyStages, Reading.ofParameters]
  cases registry.schema collection with
  | error error => rfl
  | ok schema =>
    cases bound? context.updatesSince with
    | error error => rfl
    | ok since =>
      simp only [bind, Except.bind, pure, Except.pure]
      cases Filter.compile settings.primaryKey schema _ with
      | error error => rfl
      | ok clauses =>
        simp only [start_eq, Clause.addAll_eq, Draft.foldl_populating, Draft.foldl_sorted,
          Page.apply, Draft.skipping, Draft.limited, Draft.finish, List.nil_append, ofReading]

/-- A request compiles exactly when its collection is registered, its bound can be read and its
filters compile. -/
theorem compile_eq_ok_iff {registry : Registry} {settings : Settings} {collection : String}
    {parameters : Parameters} {context : Context} {plan : Plan} :
    compile registry settings collection parameters context = .ok plan ↔
      ∃ schema since clauses, registry.get? collection = some schema ∧
        bound? context.updatesSince = .ok since ∧
        Filter.compile settings.primaryKey schema
          (Reading.ofParameters settings parameters).filters = .ok clauses ∧
        plan = ofReading registry settings schema collection context
          (Reading.ofParameters settings parameters) since clauses := by
  rw [compile_eq, Registry.schema]
  cases registry.get? collection with
  | none => simp [bind, Except.bind]
  | some schema =>
    cases bound? context.updatesSince with
    | error error => simp [bind, Except.bind]
    | ok since =>
      simp only [bind, Except.bind, pure, Except.pure]
      cases compiled : Filter.compile settings.primaryKey schema _ with
      | error error => simp [compiled]
      | ok clauses => simp [compiled, eq_comm]

theorem compile_nil {registry : Registry} {settings : Settings} {collection : String}
    {schema : Schema} {context : Context} {since : Option Timestamp}
    (known : registry.get? collection = some schema)
    (bounded : bound? context.updatesSince = .ok since) :
    compile registry settings collection [] context =
      .ok (ofReading registry settings schema collection context
        (Reading.ofParameters settings []) since []) :=
  compile_eq_ok_iff.2 ⟨schema, since, [], known, bounded, rfl, rfl⟩

theorem scope_of_compile {registry : Registry} {settings : Settings} {name text : String}
    {parameters : Parameters} {hint : Option String} {elevated : Bool} {plan : Plan}
    {bound : Timestamp} (read : Timestamp.read? text = some bound)
    (planned : compile registry settings name parameters ⟨hint, elevated, some text⟩ = .ok plan) :
    plan.collection = name ∧ plan.sync = some ⟨name, bound⟩ := by
  obtain ⟨schema, since, clauses, _, bounded, _, rfl⟩ := compile_eq_ok_iff.1 planned
  simp only [bound?, read, Except.ok.injEq] at bounded
  subst bounded
  exact ⟨rfl, rfl⟩

theorem sync_of_unbounded {registry : Registry} {settings : Settings} {name : String}
    {parameters : Parameters} {context : Context} {plan : Plan}
    (unbounded : context.updatesSince = none)
    (planned : compile registry settings name parameters context = .ok plan) :
    plan.sync = none := by
  obtain ⟨_, since, _, _, bounded, _, rfl⟩ := compile_eq_ok_iff.1 planned
  rw [unbounded] at bounded
  cases bounded
  rfl

theorem Reading.skip_of_absent {parameters : Parameters}
    (absent : parameters.contains "skip" = false) (settings : Settings) :
    (ofParameters settings parameters).page.skip = 0 := by
  have none_given : (((parameters.take "populatedeep").2.take "limit").2.take "skip").1 = [] := by
    simp only [Parameters.take, Parameters.getAll, List.map_eq_nil_iff, List.filter_eq_nil_iff]
    intro parameter there
    have listed := (List.mem_filter.1 (List.mem_filter.1 there).1).1
    exact List.any_eq_false.1 absent parameter listed
  simp only [ofParameters, Page.extract, none_given]
  rfl

theorem Reading.ofParameters_byId (settings : Settings) (parameters : Parameters)
    (text : String) :
    ofParameters settings (parameters ++ [("filter[id]", text)]) =
      { ofParameters settings parameters with
        filters := (ofParameters settings parameters).filters ++ [("filter[id]", text)] } := by
  have filters : Parameters.inFamily Filter.root "filter[id]" = true := by decide
  have other : Parameters.inFamily Population.root "filter[id]" = false := by decide
  simp [ofParameters, Page.extract, Parameters.take, Parameters.takeFamily, Parameters.getAll,
    filters, other]

end Plan

end DocumentQuery
