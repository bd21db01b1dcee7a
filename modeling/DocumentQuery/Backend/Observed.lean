import DocumentQuery.Backend

/-! Observed backends. An observed backend notes each call before it runs and
refuses the calls of an outage, which then change nothing.
-/

set_option autoImplicit false

namespace DocumentQuery

inductive Call where
  | insert (collection : String) (count : Nat)
  | delete (collection : String) (ids : List ObjectId)
  | get (collection : String) (ids : List ObjectId) (projection : Option Projection)
  | query (collection : String)
  deriving DecidableEq, Repr

def Call.collection : Call → String
  | .insert collection _ | .delete collection _ | .get collection _ _ | .query collection =>
    collection

/-- The state of a backend together with the calls made, last first. -/
structure Observed (σ : Type) where
  inner : σ
  calls : List Call := []

namespace Observed

variable {σ α : Type}

/-- Notes a call and makes it, unless it is refused. -/
def call (refuses : List Call → Call → Bool) (call : Call) (action : Action σ α) :
    Action (Observed σ) α :=
  ExceptT.mk fun state =>
    let noted := call :: state.calls
    -- The calls made before decide with it, so that an outage may begin at any point.
    if refuses state.calls call then
      (.error (.backend (call.collection ++ " is unavailable")), { state with calls := noted })
    else
      let (result, inner) := action.run state.inner
      (result, { inner, calls := noted })

def backend (inner : Backend σ) (refuses : List Call → Call → Bool) : Backend (Observed σ) where
  insert documents collection :=
    call refuses (.insert collection documents.length) (inner.insert documents collection)
  delete ids collection := call refuses (.delete collection ids) (inner.delete ids collection)
  get ids collection projection :=
    call refuses (.get collection ids projection) (inner.get ids collection projection)
  query query collection := call refuses (.query collection) (inner.query query collection)

end Observed

end DocumentQuery
