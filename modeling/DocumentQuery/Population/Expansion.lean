import DocumentQuery.Backend
import DocumentQuery.Document.References

/-! Expansion of references. The identifiers found at a path of some documents are
fetched together, each once, and replaced by the documents that came back.
Identifiers without one stay in place.
-/

set_option autoImplicit false

namespace DocumentQuery.Population

variable {σ : Type}

abbrev Referents := SortedMap ObjectId Document

/-- The elements of a list without repetitions, each at its first place. -/
def distinct (ids : List ObjectId) : List ObjectId :=
  ids.foldl (fun seen id => if id ∈ seen then seen else seen ++ [id]) []

/-- Fetched documents as referents; those without an identifier are of no use. -/
def referentsOf (documents : List Document) : Referents :=
  .ofPairs (documents.filterMap fun document => document.id?.map (·, document))

/-- Fetches the referents of all identifiers at a path, if there are any. -/
def fetch (backend : Backend σ) (documents : List Document) (path : Path) (target : String)
    (projection : Option Projection) : Action σ Referents := do
  -- One call serves all documents, and none is made without identifiers.
  let ids := distinct (documents.flatMap (·.referencesAt path))
  if ids.isEmpty then return .empty
  else return referentsOf (← backend.get ids target projection)

def expand (backend : Backend σ) (documents : List Document) (path : Path) (target : String)
    (projection : Option Projection) (locale : Option String) :
    Action σ (Nat × List Document) := do
  let referents ← fetch backend documents path target projection
  return (referents.size, documents.map (·.resolveAt referents.get? locale path))

/-- The documents after a shallow expansion, and the number of referents or what prevented it. -/
structure ShallowRun where
  documents : List Document
  outcome : Except AccessError Nat

def shallow (backend : Backend σ) (documents : List Document) (path : Path) (target : String)
    (projection : Option Projection) (locale : Option String) : StateM σ ShallowRun := do
  match ← (expand backend documents path target projection locale).run with
  | .ok (count, expanded) => return { documents := expanded, outcome := .ok count }
  -- A failure leaves the documents as they are.
  | .error error => return { documents, outcome := .error error }

/-- Expands the references of some directives one after the other; those without a known target
are passed over. -/
def expandAll (backend : Backend σ) (documents : List Document) :
    List Directive → Action σ (List Document)
  | [] => pure documents
  | directive :: rest =>
    match directive.target with
    | none => expandAll backend documents rest
    | some target => do
      let (_, documents) ← expand backend documents (Path.ofText directive.path) target
        directive.projection none
      expandAll backend documents rest

end DocumentQuery.Population
