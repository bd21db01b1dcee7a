import DocumentQuery.Schema
import DocumentQuery.SortedMap

/-! The registry of all collections. It is closed under references: whatever a
registered schema refers to is registered too, the journal of deletions included.
-/

set_option autoImplicit false

namespace DocumentQuery

def defaultJournal : String := "deletejournal"

def modelKey : String := "model"

def deletedKey : String := "deleted"

def Schema.journal (collection : String) : Schema :=
  ⟨collection, [.plain idKey (.primitive .objectId), .plain modelKey (.primitive .string),
    .plain deletedKey (.primitive .date)]⟩

structure Registry where
  schemas : SortedMap String Schema

namespace Registry

def get? (registry : Registry) (collection : String) : Option Schema :=
  registry.schemas.get? collection

/-- The schema of a collection that has to be registered. -/
def schema (registry : Registry) (collection : String) : Except AccessError Schema :=
  match registry.get? collection with
  | some schema => .ok schema
  | none => .error (.collectionNotFound collection)

def collections (registry : Registry) : List String :=
  registry.schemas.keys

def register (known : SortedMap String Schema) :
    List Schema → Except AccessError (SortedMap String Schema)
  | [] => .ok known
  | schema :: rest =>
    if known.contains schema.name then .error (.registeredTwice schema.name)
    else register (known.insert schema.name schema) rest

def danglingReference? (known : SortedMap String Schema) : Option AccessError :=
  known.values.findSome? fun schema =>
    (schema.targets.find? fun target => ! known.contains target).map
      (.unknownReference schema.name ·)

/-- The registry of some schemas together with the journal. -/
def build (schemas : List Schema) (journal : String) : Except AccessError Registry := do
  let known ← register .empty (schemas ++ [.journal journal])
  match danglingReference? known with
  | some error => .error error
  | none => .ok ⟨known⟩

/-- The schema of the documents reached from those of a root by a path. -/
def governing? (registry : Registry) : Path → Schema → Option Schema
  | [], schema => some schema
  | name :: rest, schema => do
    -- Embedded fields stay inside the collection, references go on in the one they point to.
    match (← schema.fieldType? name).element with
    | .embedded inner => governing? registry rest inner
    | .reference target => governing? registry rest (← registry.get? target)
    | .primitive _ | .array _ => none

/-- The journal's schema is the one its two fields build. -/
theorem build_journal (collection : String) :
    Schema.build collection
      [.plain modelKey (.primitive .string), .plain deletedKey (.primitive .date)] =
      .ok (.journal collection) := rfl

end Registry

end DocumentQuery
