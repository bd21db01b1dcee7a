import DocumentQuery.Error
import DocumentQuery.Expr.Evaluation
import DocumentQuery.Projection
import DocumentQuery.SortedMap
import DocumentQuery.Sorting

/-! The store: collections of documents, each under the identifier it carries. A
batch of documents is inserted as a whole or not at all, and results come in the
order of the identifiers unless a query sorts them.
-/

set_option autoImplicit false

namespace DocumentQuery

abbrev Shelf := SortedMap ObjectId Document

structure Store where
  collections : SortedMap String Shelf

namespace Store

def empty : Store :=
  ⟨.empty⟩

/-- The documents of a collection; one that is not there has none. -/
def shelf (store : Store) (collection : String) : Shelf :=
  (store.collections.get? collection).getD .empty

def withShelf (store : Store) (collection : String) (shelf : Shelf) : Store :=
  ⟨store.collections.insert collection shelf⟩

def createCollection (store : Store) (collection : String) : Store :=
  store.withShelf collection (store.shelf collection)

def dropCollection (store : Store) (collection : String) : Except AccessError Store :=
  if store.collections.contains collection then .ok ⟨store.collections.erase collection⟩
  else .error (.collectionNotFound collection)

def listCollections (store : Store) : List String :=
  store.collections.keys

/-- Puts documents into a shelf one by one, up to the first that lacks an identifier or has
that of a document already there. -/
def insertAll (collection : String) (shelf : Shelf) : List Document → Except AccessError Shelf
  | [] => .ok shelf
  | document :: rest =>
    match document.id? with
    | none => .error (.documentWithoutId collection)
    | some id =>
      if shelf.contains id then .error (.documentAlreadyExists id collection)
      else insertAll collection (shelf.insert id document) rest

/-- Inserts all documents or none. -/
def insert (store : Store) (collection : String) (documents : List Document) :
    Except AccessError Unit × Store :=
  match insertAll collection (store.shelf collection) documents with
  | .ok shelf => (.ok (), store.withShelf collection shelf)
  -- The collection is there afterwards in either case.
  | .error error => (.error error, store.createCollection collection)

/-- Removes the documents with some identifiers, as far as they are there. -/
def delete (store : Store) (collection : String) (ids : List ObjectId) : Store :=
  match store.collections.get? collection with
  | some shelf => store.withShelf collection (ids.foldl (fun shelf id => shelf.erase id) shelf)
  | none => store

/-- The documents with some identifiers, in the order asked for, as far as they are there. -/
def get (store : Store) (collection : String) (ids : List ObjectId)
    (projection : Option Projection) : List Document :=
  (ids.filterMap (store.shelf collection).get?).map (Projection.applyTo projection)

def compareBy (key : SortKey) (a b : Document) : Ordering :=
  let order :=
    Value.sortOrder (a.valueAt? (Path.ofText key.field)) (b.valueAt? (Path.ofText key.field))
  match key.direction with
  | .ascending => order
  | .descending => order.swap

/-- The order of two documents by the first key that tells them apart. -/
def compareByAll (keys : List SortKey) (a b : Document) : Ordering :=
  ((keys.map fun key => compareBy key a b).find? (· != .eq)).getD .eq

/-- Sorts documents by some keys. Where these do not order the documents, the result is up to the
sort. -/
def sortWith (sorting : Sorting) (keys : List SortKey) (documents : List Document) :
    Except AccessError (List Document) :=
  if keys.isEmpty then .ok documents else sorting.sort (compareByAll keys) documents

@[simp] theorem sortWith_nil (sorting : Sorting) (documents : List Document) :
    sortWith sorting [] documents = .ok documents := rfl

def page (skip limit : Option Int64) (documents : List Document) : List Document :=
  -- Offsets below zero count as zero, and limits that are not positive as none.
  let rest := documents.drop ((skip.map (·.toInt.toNat)).getD 0)
  match limit with
  | some limit => if 0 < limit then rest.take limit.toInt.toNat else rest
  | none => rest

/-- Answers a query: filter, sort, page and selection, in this order. -/
def query (store : Store) (collection : String) (query : Query)
    (sorting : Sorting := .insertion) : Except AccessError (List Document) := do
  let documents := (store.shelf collection).values
  let selected ← match query.filter with
    | some filter => filter.select documents
    | none => .ok documents
  -- Documents are selected, sorted and paged whole; their parts are chosen last.
  let sorted ← sortWith sorting query.sort selected
  return (page query.skip query.limit sorted).map (Projection.applyTo query.projection)

end Store

end DocumentQuery
