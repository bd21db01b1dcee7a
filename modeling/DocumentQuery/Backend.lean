import DocumentQuery.Store

/-! Backends: what the resource layer needs of a store of documents. Each operation
is a step on the state of the backend that may fail; the state after a failure is
part of its outcome. The store in memory is one backend.
-/

set_option autoImplicit false

namespace DocumentQuery

/-- A step on a state that gives a result or fails; either way there is a state after it. -/
abbrev Action (σ α : Type) := ExceptT AccessError (StateM σ) α

structure Backend (σ : Type) where
  /-- Inserts documents into a collection. -/
  insert : List Document → String → Action σ Unit
  /-- Removes the documents with some identifiers from a collection. -/
  delete : List ObjectId → String → Action σ Unit
  /-- The selected parts of the documents with some identifiers. -/
  get : List ObjectId → String → Option Projection → Action σ (List Document)
  /-- Answers a query on a collection. -/
  query : Query → String → Action σ (List Document)

def Action.lift {σ α : Type} (result : Except AccessError α) : Action σ α :=
  ExceptT.mk (pure result)

/-- The store in memory as a backend, with the sort of its queries. -/
def Store.backend (sorting : Sorting := .insertion) : Backend Store where
  insert documents collection := ExceptT.mk fun store => store.insert collection documents
  delete ids collection := ExceptT.mk fun store => (.ok (), store.delete collection ids)
  get ids collection projection := ExceptT.mk fun store =>
    (.ok (store.get collection ids projection), store)
  query query collection := ExceptT.mk fun store =>
    (store.query collection query sorting, store)

end DocumentQuery
