import DocumentQuery.Filter.Compile
import DocumentQuery.Page
import DocumentQuery.Population.Request
import DocumentQuery.Settings
import DocumentQuery.SortKey

/-! Plans. A request is compiled in stages, each of which takes its own parameters:
the page, the references to expand, the sort keys and the filters. A plan adds what
the caller may read, the locale, the bound of a sync request and the paths to expand
after the query has run.
-/

set_option autoImplicit false

namespace DocumentQuery

/-- What is known of a request besides its parameters. -/
structure Context where
  localeHint : Option String := none
  /-- Whether the caller may read what is kept for administrators. -/
  elevated : Bool := false
  /-- The lower bound of a sync request. -/
  updatesSince : Option String := none
  deriving DecidableEq, Repr

structure SyncScope where
  collection : String
  since : Timestamp
  deriving DecidableEq, Repr

structure Plan where
  collection : String
  query : Query
  /-- The paths to expand after the query, in order. -/
  deepPaths : List String := []
  locale : String
  sync : Option SyncScope := none

namespace Plan

/-- Runs the stages on a draft and hands back the parameters that none of them took. -/
def applyStages (registry : Registry) (settings : Settings) (schema : Schema) (locale : String)
    (parameters : Parameters) (draft : Draft) : Except AccessError (Draft × Parameters) := do
  let (page, parameters) := Page.extract settings parameters
  let draft := page.apply draft
  let (references, parameters) := parameters.takeFamily Population.root
  let supported := settings.locales.supported
  let draft := (Population.directives registry supported locale schema references).foldl
    Draft.populating draft
  let (sorts, parameters) := parameters.take "sort"
  let draft := (SortKey.ofValues sorts).foldl Draft.sorted draft
  let (filters, parameters) := parameters.takeFamily Filter.root
  let clauses ← Filter.compile settings.primaryKey schema filters
  return (Clause.addAll draft clauses, parameters)

def bound? : Option String → Except AccessError (Option Timestamp)
  | none => .ok none
  | some text =>
    match Timestamp.read? text with
    | some since => .ok (some since)
    | none => .error (.invalidBound text)

/-- The draft that a plan starts from: the selection for the caller and the locale, and the
condition of a sync request. -/
def start (settings : Settings) (schema : Schema) (locale : String) (elevated : Bool)
    (since : Option Timestamp) : Draft :=
  let admin := if elevated then none else schema.adminExclusions?
  let variants := schema.localeExclusions? locale settings.locales.supported
  let draft : Draft := { query := { projection := Projection.both? admin variants } }
  match since with
  | some since => draft.filtered (.compare settings.updatedField .gte (.date since))
  | none => draft

def compile (registry : Registry) (settings : Settings) (collection : String)
    (parameters : Parameters) (context : Context) : Except AccessError Plan := do
  let schema ← registry.schema collection
  let locale := settings.locales.resolve context.localeHint
  let since ← bound? context.updatesSince
  -- Deep paths are for the time after the query, so no stage may see them.
  let (deep, parameters) := parameters.take "populatedeep"
  let draft := start settings schema locale context.elevated since
  let (draft, _) ← applyStages registry settings schema locale parameters draft
  return {
    collection
    query := draft.finish
    deepPaths := deep.flatMap Text.words
    locale
    sync := since.map fun since => ⟨collection, since⟩ }

end Plan

end DocumentQuery
