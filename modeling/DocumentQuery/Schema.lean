import DocumentQuery.Error
import DocumentQuery.Projection

/-! Schemas: the fields of a collection or of an embedded document, with their
types. A schema says where each field is stored, which type a dotted path leads
to, and which stored paths to hide from a caller without privileges or from one
who reads a single locale.
-/

set_option autoImplicit false

namespace DocumentQuery

inductive Primitive where
  | string
  | number
  | boolean
  | date
  /-- An identifier that points to no collection. -/
  | objectId
  deriving DecidableEq, Repr

mutual

inductive FieldType where
  | primitive (type : Primitive)
  /-- The identifier of a document of a collection. -/
  | reference (target : String)
  | embedded (schema : Schema)
  | array (element : FieldType)

/-- A named field. A localized field is stored with one variant per locale; one for
administrators is hidden from everybody else. -/
structure Field where
  name : String
  type : FieldType
  localized : Bool
  adminOnly : Bool

/-- The fields of a collection or of an embedded document. -/
structure Schema where
  name : String
  fields : List Field

end

namespace FieldType

/-- The type within any number of array layers. -/
def element : FieldType → FieldType
  | .array inner => inner.element
  | type => type

/-- The collection that a reference, or an array of them, points to. -/
def referenceTarget? (type : FieldType) : Option String :=
  match type.element with
  | .reference target => some target
  | _ => none

def embeddedSchema? (type : FieldType) : Option Schema :=
  match type.element with
  | .embedded schema => some schema
  | _ => none

def primitive? (type : FieldType) : Option Primitive :=
  match type.element with
  | .primitive scalar => some scalar
  | _ => none

def isIdentifier (type : FieldType) : Bool :=
  match type.element with
  | .reference _ | .primitive .objectId => true
  | _ => false

end FieldType

namespace Field

def plain (name : String) (type : FieldType) : Field :=
  ⟨name, type, false, false⟩

def storageKey (field : Field) : String :=
  if field.localized then field.name ++ "I18n" else field.name

end Field

namespace Schema

def field? (schema : Schema) (name : String) : Option Field :=
  schema.fields.find? (·.name == name)

def fieldType? (schema : Schema) (name : String) : Option FieldType :=
  (schema.field? name).map (·.type)

def firstRepeated? (seen : List String) : List String → Option String
  | [] => none
  | name :: rest => if name ∈ seen then some name else firstRepeated? (name :: seen) rest

/-- The schema with the given fields; the identifier is declared first unless it is among them. -/
def build (name : String) (fields : List Field) : Except AccessError Schema :=
  let names := fields.map (·.name)
  match firstRepeated? [] names with
  | some repeated => .error (.duplicateField repeated name)
  | none =>
    let id := Field.plain idKey (.primitive .objectId)
    .ok ⟨name, if idKey ∈ names then fields else id :: fields⟩

def timestamps : List Field :=
  [.plain "created" (.primitive .date), .plain "updated" (.primitive .date)]

/-- The type at the end of a path, which goes through embedded documents and never
through a reference. -/
def typeAt? : Path → Schema → Option FieldType
  | [], _ => none
  | [name], schema => schema.fieldType? name
  | name :: rest, schema => do typeAt? rest (← (← schema.fieldType? name).embeddedSchema?)

end Schema

mutual

/-- The stored paths hidden from callers without privileges, below a field type. -/
def FieldType.adminPaths : FieldType → List Path
  | .embedded schema => schema.adminPaths
  | .array inner => inner.adminPaths
  | .primitive _ | .reference _ => []

def Schema.adminPaths : Schema → List Path
  | ⟨_, fields⟩ => Field.adminPaths fields

def Field.adminPaths : List Field → List Path
  | [] => []
  | ⟨name, type, localized, adminOnly⟩ :: rest =>
    (if adminOnly then [[Field.storageKey ⟨name, type, localized, adminOnly⟩]]
      else type.adminPaths.map (name :: ·)) ++ Field.adminPaths rest

end

mutual

/-- The stored paths of variants for other locales, below a field type. -/
def FieldType.variantPaths (others : List String) : FieldType → List Path
  | .embedded schema => schema.variantPaths others
  | .array inner => inner.variantPaths others
  | .primitive _ | .reference _ => []

def Schema.variantPaths (others : List String) : Schema → List Path
  | ⟨_, fields⟩ => Field.variantPaths others fields

def Field.variantPaths (others : List String) : List Field → List Path
  | [] => []
  | ⟨name, type, localized, adminOnly⟩ :: rest =>
    (if localized then
        others.map fun locale => [Field.storageKey ⟨name, type, localized, adminOnly⟩, locale]
      else []) ++
      (type.variantPaths others).map (name :: ·) ++ Field.variantPaths others rest

end

mutual

/-- The collections that a type refers to, at any depth. -/
def FieldType.targets : FieldType → List String
  | .reference target => [target]
  | .embedded schema => schema.targets
  | .array inner => inner.targets
  | .primitive _ => []

def Schema.targets : Schema → List String
  | ⟨_, fields⟩ => Field.targets fields

def Field.targets : List Field → List String
  | [] => []
  | ⟨_, type, _, _⟩ :: rest => type.targets ++ Field.targets rest

end

namespace Schema

/-- The selection that hides what only administrators may see, if there is any. -/
def adminExclusions? (schema : Schema) : Option Projection :=
  Projection.hiding? (schema.adminPaths.map Path.text)

/-- The selection that hides the variants for all supported locales but one, if there are any. -/
def localeExclusions? (schema : Schema) (locale : String) (supported : List String) :
    Option Projection :=
  Projection.hiding? ((schema.variantPaths (supported.filter (· ≠ locale))).map Path.text)

end Schema

end DocumentQuery
