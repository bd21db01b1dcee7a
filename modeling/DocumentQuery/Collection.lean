import DocumentQuery.Journal
import DocumentQuery.Population.Expansion
import DocumentQuery.Settings

/-! Collections: a schema and the backend that holds its documents. Inserting gives
documents an identifier and the dates that the schema declares; deleting leaves
entries in the journal. The time and the supply of fresh identifiers come from
outside.
-/

set_option autoImplicit false

namespace DocumentQuery

structure Collection (σ : Type) where
  schema : Schema
  backend : Backend σ
  /-- The collection that deletions are recorded in. -/
  journal : String

namespace Collection

variable {σ : Type}

def name (collection : Collection σ) : String :=
  collection.schema.name

def exec (collection : Collection σ) (query : Query) : Action σ (List Document) := do
  -- The backend only selects; references are expanded here.
  let documents ← collection.backend.query { query with populate := [] } collection.name
  if documents.isEmpty then return []
  else Population.expandAll collection.backend documents query.populate

def get (collection : Collection σ) (ids : List ObjectId) (projection : Option Projection) :
    Action σ (List Document) :=
  collection.backend.get ids collection.name projection

/-- Sets a date that the schema declares and the document lacks. -/
def stamp (schema : Schema) (now : Timestamp) (document : Document) (key : String) : Document :=
  if (schema.field? key).isSome && ! document.hasKey key then document.set key (.date now)
  else document

def stampAll (schema : Schema) (now : Timestamp) (document : Document) : Document :=
  stamp schema now (stamp schema now document "created") "updated"

/-- Prepares documents for insertion: the documents with their identifiers and dates, and the
identifiers in order. -/
def prepare (schema : Schema) (now : Timestamp) (fresh : Nat → ObjectId) :
    (used : Nat) → List Document → Except AccessError (List ObjectId × List Document)
  | _, [] => .ok ([], [])
  | used, document :: rest => do
    let (id, document, used) ← match document.get? idKey with
      | some (.objectId id) => .ok (id, document, used)
      | some other => .error (.idNotReference other)
      -- Documents without an identifier take the next fresh one.
      | none => .ok (fresh used, document.set idKey (.objectId (fresh used)), used + 1)
    let (ids, documents) ← prepare schema now fresh used rest
    return (id :: ids, stampAll schema now document :: documents)

def insert (collection : Collection σ) (now : Timestamp) (fresh : Nat → ObjectId)
    (documents : List Document) : Action σ (List ObjectId) := do
  let (ids, documents) ← Action.lift (prepare collection.schema now fresh 0 documents)
  collection.backend.insert documents collection.name
  return ids

def delete (collection : Collection σ) (now : Timestamp) (ids : List ObjectId) : Action σ Unit := do
  collection.backend.delete ids collection.name
  Journal.record collection.backend collection.journal collection.name now ids

end Collection

end DocumentQuery
