import DocumentQuery.Parameters
import DocumentQuery.Query
import DocumentQuery.Schema.Registry
import DocumentQuery.Text.Words

/-! References to expand, as clients ask for them: `populate` lists paths, and
`populate[comments]` lists paths below `comments`. A path that leads to a reference
is given the collection it points to and the part of its documents that a caller
without privileges may read in one locale.
-/

set_option autoImplicit false

namespace DocumentQuery.Population

def root : String := "populate"

/-- The paths that one parameter asks for; parameters of other families ask for none. -/
def requestedPaths (name value : String) : List String :=
  match Parameters.segments? name root with
  | none => []
  | some segments =>
    let base := String.join ((segments.filter (· ≠ "")).map (· ++ "."))
    (Text.words value).map (base ++ ·)

/-- The part of a collection's documents that expanding a reference loads. -/
def selectionOf (registry : Registry) (supported : List String) (locale target : String) :
    Option Projection := do
  let schema ← registry.get? target
  Projection.both? schema.adminExclusions? (schema.localeExclusions? locale supported)

def directive (registry : Registry) (supported : List String) (locale : String) (schema : Schema)
    (path : String) : Directive :=
  match (schema.typeAt? (Path.ofText path)).bind (·.referenceTarget?) with
  -- Without a known target the path is passed on as it is.
  | none => { path }
  | some target =>
    { path, target := some target, projection := selectionOf registry supported locale target }

def directives (registry : Registry) (supported : List String) (locale : String) (schema : Schema)
    (parameters : Parameters) : List Directive :=
  (parameters.flatMap fun (name, value) => requestedPaths name value).map
    (directive registry supported locale schema)

end DocumentQuery.Population
