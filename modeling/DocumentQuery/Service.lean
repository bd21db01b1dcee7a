import DocumentQuery.Assembly
import DocumentQuery.Collection
import DocumentQuery.Serialized

/-! The resource service: a backend, the registry of collections and the settings.
It lists the documents of a collection, loads one, inserts and deletes, on behalf of
callers whose parameters and privileges come with each request.
-/

set_option autoImplicit false

namespace DocumentQuery

structure Service (σ : Type) where
  backend : Backend σ
  registry : Registry
  settings : Settings

namespace Service

variable {σ : Type}

/-- The service, provided that the journal of its settings is registered. -/
def build (backend : Backend σ) (registry : Registry) (settings : Settings) :
    Except AccessError (Service σ) :=
  match registry.get? settings.journalCollection with
  | some _ => .ok ⟨backend, registry, settings⟩
  | none => .error (.journalNotRegistered settings.journalCollection)

def collection (service : Service σ) (name : String) : Except AccessError (Collection σ) := do
  return ⟨← service.registry.schema name, service.backend, service.settings.journalCollection⟩

def plan (service : Service σ) (name : String) (parameters : Parameters) (context : Context) :
    Except AccessError Plan :=
  Plan.compile service.registry service.settings name parameters context

def assemble (service : Service σ) (plan : Plan) (set : DocumentSet) : Action σ DocumentSet :=
  plan.assemble service.backend service.registry service.settings set

def findAll (service : Service σ) (name : String) (parameters : Parameters) (context : Context) :
    Action σ (List Document) := do
  let collection ← Action.lift (service.collection name)
  let plan ← Action.lift (service.plan name parameters context)
  let documents ← collection.exec plan.query
  return (← service.assemble plan (.many documents)).toList

/-- The query for one document among those that a query selects. -/
def queryById (query : Query) (id : ObjectId) : Query :=
  let byId : Expr := .compare idKey .eq (.objectId id)
  { query with
    filter := match query.filter with
      | some filter => some (.all [filter, byId])
      | none => some byId
    skip := none
    limit := some 1 }

def readId (text : String) : Except AccessError ObjectId :=
  match ObjectId.read? text with
  | some id => .ok id
  | none => .error (.invalidReference text)

def firstOf (id name : String) : List Document → Except AccessError Document
  | document :: _ => .ok document
  | [] => .error (.resourceNotFound id name)

def findById (service : Service σ) (name id : String) (parameters : Parameters)
    (context : Context) : Action σ Document := do
  if id.isEmpty then throw (.missingParameter "id")
  let oid ← Action.lift (readId id)
  let collection ← Action.lift (service.collection name)
  let plan ← Action.lift (service.plan name parameters context)
  -- The request's own filter still applies, its page does not.
  let documents ← collection.exec (queryById plan.query oid)
  let document ← Action.lift (firstOf id name documents)
  let set ← service.assemble plan (.one document)
  Action.lift (firstOf id name set.toList)

def insert (service : Service σ) (name : String) (now : Timestamp) (fresh : Nat → ObjectId)
    (documents : List Document) : Action σ (List ObjectId) := do
  (← Action.lift (service.collection name)).insert now fresh documents

def insertSerialized (service : Service σ) (name : String) (now : Timestamp)
    (fresh : Nat → ObjectId) (data : List Serialized) : Action σ (List ObjectId) := do
  let collection ← Action.lift (service.collection name)
  collection.insert now fresh (← Action.lift (Serialized.toDocuments data))

def deleteById (service : Service σ) (name id : String) (now : Timestamp) : Action σ Unit := do
  let oid ← Action.lift (readId id)
  let collection ← Action.lift (service.collection name)
  let found ← collection.get [oid] none
  if found.isEmpty then throw (.resourceNotFound id name)
  collection.delete now [oid]

end Service

end DocumentQuery
