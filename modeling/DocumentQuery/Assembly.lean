import DocumentQuery.Journal
import DocumentQuery.Plan
import DocumentQuery.Population.Deep

/-! Assembly of results. The documents that a query gave are expanded deeply, and
for a sync request the journal entries of the collection follow a list of them.
-/

set_option autoImplicit false

namespace DocumentQuery

variable {σ : Type}

def Plan.expandDeep (plan : Plan) (backend : Backend σ) (registry : Registry)
    (set : DocumentSet) : Action σ DocumentSet :=
  if plan.deepPaths.isEmpty then pure set
  else ExceptT.mk do
    let run ← Population.deep backend registry plan.collection plan.locale plan.deepPaths set
    return match run.failure with
      | some error => .error error
      | none => .ok run.documents

/-- Adds the journal entries of a sync request to a list of documents. -/
def Plan.addDeleted (plan : Plan) (backend : Backend σ) (journal : String) :
    DocumentSet → Action σ DocumentSet
  | .one document => pure (.one document)
  | .many documents =>
    match plan.sync with
    | none => pure (.many documents)
    | some sync => do
      let deleted ← Journal.deletedSince backend journal sync.collection sync.since
      return .many (documents ++ deleted)

def Plan.assemble (plan : Plan) (backend : Backend σ) (registry : Registry) (settings : Settings)
    (set : DocumentSet) : Action σ DocumentSet :=
  -- An empty list stays as it is, without a call.
  if set.isEmpty then pure set
  else do
    let set ← plan.expandDeep backend registry set
    plan.addDeleted backend settings.journalCollection set

end DocumentQuery
