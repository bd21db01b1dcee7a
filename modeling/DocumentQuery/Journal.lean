import DocumentQuery.Backend
import DocumentQuery.Schema.Registry

/-! The journal of deletions. It holds one entry for each deleted document, under
the identifier of the document, with its collection and the time of its latest
deletion. Sync requests read the entries of their collection from a bound on.
-/

set_option autoImplicit false

namespace DocumentQuery.Journal

variable {σ : Type}

def entry (model : String) (deleted : Timestamp) (id : ObjectId) : Document :=
  [(idKey, .objectId id), (modelKey, .string model), (deletedKey, .date deleted)]

/-- Records one deletion, replacing an earlier entry of the same identifier. -/
def recordOne (backend : Backend σ) (journal model : String) (now : Timestamp) (id : ObjectId) :
    Action σ Unit :=
  tryCatch (backend.insert [entry model now id] journal) fun
    | .documentAlreadyExists _ _ => do
      backend.delete [id] journal
      backend.insert [entry model now id] journal
    | error => throw error

/-- Records deletions one by one, up to the first failure. -/
def record (backend : Backend σ) (journal model : String) (now : Timestamp) :
    List ObjectId → Action σ Unit
  | [] => pure ()
  | id :: rest => do
    recordOne backend journal model now id
    record backend journal model now rest

def since (model : String) (bound : Timestamp) : Query :=
  { filter := some (.all [.compare modelKey .eq (.string model),
      .compare deletedKey .gte (.date bound)]) }

def deletedSince (backend : Backend σ) (journal model : String) (bound : Timestamp) :
    Action σ (List Document) :=
  backend.query (since model bound) journal

end DocumentQuery.Journal
