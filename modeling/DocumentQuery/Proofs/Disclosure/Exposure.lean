import DocumentQuery.Proofs.Action
import DocumentQuery.Proofs.Schema.Structure
import DocumentQuery.Proofs.Store.Contents
import DocumentQuery.Service

/-! What callers without privileges may not see. A field of a schema is followed into
a document through embedded documents and through any number of array layers, the way
its declared type is read; a document exposes what is kept for administrators when
something lies where such a field is stored. The blind spots of a schema are the places
that its hidden paths do not reach.
-/

set_option autoImplicit false

namespace DocumentQuery

/-- The documents that a value holds, through any number of arrays. -/
inductive Value.Holds : Value → Document → Prop
  | here {document : Document} : Holds (.document document) document
  | item {items : List Value} {item : Value} {document : Document} :
      item ∈ items → Holds item document → Holds (.array items) document

/-- The values that a document stores for a field: the one under its name, or each of the variants
of a localized field. -/
inductive Field.Stores (field : Field) (document : Document) : Value → Prop
  | plain {value : Value} : field.localized = false →
      document.get? field.name = some value → Stores field document value
  | variant {variants : Document} {locale : String} {value : Value} : field.localized = true →
      document.get? field.storageKey = some (.document variants) →
      variants.get? locale = some value → Stores field document value

/-- Something lies where an admin-only field of the schema, or of an embedded one, is stored. -/
inductive Schema.Exposes : Schema → Document → Prop
  | own {schema : Schema} {document : Document} {field : Field} : field ∈ schema.fields →
      field.adminOnly = true → document.hasKey field.storageKey = true → Exposes schema document
  | inside {schema inner : Schema} {document part : Document} {field : Field} {value : Value} :
      field ∈ schema.fields → field.type.embeddedSchema? = some inner →
      field.Stores document value → value.Holds part → Exposes inner part →
      Exposes schema document

/-- The documents in the places of references, with the collections that they come from. A place
is found by the fields on the way to it, through documents inserted earlier. -/
inductive Registry.Inserted (registry : Registry) : Schema → Document → String → Document → Prop
  | here {schema : Schema} {document part : Document} {name target : String} {type : FieldType}
      {value : Value} : schema.fieldType? name = some type →
      type.referenceTarget? = some target → document.get? name = some value →
      value.Holds part → Inserted registry schema document target part
  | further {schema next : Schema} {document inner part : Document} {name target : String}
      {value : Value} : registry.governing? [name] schema = some next →
      document.get? name = some value → value.Holds inner →
      Inserted registry next inner target part → Inserted registry schema document target part

/-- A document hides what is kept for administrators, and so does every document inserted in it. -/
def Registry.Hides (registry : Registry) (schema : Schema) (document : Document) : Prop :=
  ¬ schema.Exposes document ∧
    ∀ target part origin, registry.Inserted schema document target part →
      registry.get? target = some origin → ¬ origin.Exposes part

def Primitive.admits : Primitive → Value → Bool
  | .string, .string _ | .number, .int32 _ | .number, .int64 _ | .number, .double _
  | .boolean, .bool _ | .date, .date _ | .objectId, .objectId _ => true
  | _, _ => false

/-- A localized field lies under its storage key only, as a document of variants. -/
def Field.Framed (field : Field) (document : Document) : Prop :=
  field.localized = true → document.get? field.name = none ∧
    ∀ value, document.get? field.storageKey = some value → ∃ variants, value = .document variants

mutual

/-- The values of a declared type; null stands for a value that is not given. -/
inductive FieldType.Fits : FieldType → Value → Prop
  | null {type : FieldType} : FieldType.Fits type .null
  | scalar {scalar : Primitive} {value : Value} : scalar.admits value = true →
      FieldType.Fits (.primitive scalar) value
  | reference {target : String} {id : ObjectId} : FieldType.Fits (.reference target) (.objectId id)
  | embedded {schema : Schema} {document : Document} : Schema.Shapes schema document →
      FieldType.Fits (.embedded schema) (.document document)
  | array {inner : FieldType} {items : List Value} : (∀ item ∈ items, FieldType.Fits inner item) →
      FieldType.Fits (.array inner) (.array items)

inductive Schema.Shapes : Schema → Document → Prop
  | intro {schema : Schema} {document : Document} :
      (∀ field ∈ schema.fields, field.Framed document) →
      (∀ field ∈ schema.fields, ∀ value, field.Stores document value →
        FieldType.Fits field.type value) → Schema.Shapes schema document

end

def Store.Shaped (store : Store) (registry : Registry) : Prop :=
  ∀ name schema, registry.get? name = some schema →
    ∀ document ∈ (store.shelf name).values, schema.Shapes document

/-- Whatever a caller without privileges asks for, the answer hides what is kept for
administrators. -/
def Registry.Discreet (registry : Registry) : Prop :=
  ∀ (settings : Settings) (store : Store) (name : String) (schema : Schema)
    (parameters : Parameters) (context : Context) (documents : List Document) (after : Store),
    store.Reachable → store.Shaped registry → registry.get? name = some schema →
    context.elevated = false → context.updatesSince = none →
    (Service.findAll ⟨Store.backend, registry, settings⟩ name parameters context).on store =
      (.ok documents, after) →
    ∀ document ∈ documents, registry.Hides schema document

def FieldType.layers : FieldType → Nat
  | .array inner => inner.layers + 1
  | _ => 0

/-- An open field that embeds something hidden where no hidden path leads: under another key, in
the variants of a localized field, or within arrays of arrays. -/
inductive Schema.BlindSpot : Schema → Prop
  | here {schema inner : Schema} {field : Field} : field ∈ schema.fields →
      field.adminOnly = false → field.type.embeddedSchema? = some inner →
      inner.adminPaths ≠ [] → field.localized = true ∨ 2 ≤ field.type.layers → BlindSpot schema
  | inside {schema inner : Schema} {field : Field} : field ∈ schema.fields →
      field.adminOnly = false → field.type.embeddedSchema? = some inner →
      BlindSpot inner → BlindSpot schema

/-- No registered schema has a blind spot. -/
def Registry.Conceals (registry : Registry) : Prop :=
  ∀ name schema, registry.get? name = some schema → ¬ schema.BlindSpot

/-- No registered schema keeps for administrators what deep population writes: the locale. -/
def Registry.SparesStamp (registry : Registry) : Prop :=
  ∀ name schema, registry.get? name = some schema →
    ∀ field ∈ schema.fields, field.adminOnly = true → field.storageKey ≠ localeKey

def Field.identifier : Field :=
  .plain idKey (.primitive .objectId)

/-- The fields of every registered schema are stored apart, and its documents carry identifiers. -/
def Registry.Apart (registry : Registry) : Prop :=
  ∀ name schema, registry.get? name = some schema →
    schema.Apart ∧ Field.identifier ∈ schema.fields

namespace Schema

theorem Exposes.adminPaths_ne_nil {schema : Schema} {document : Document}
    (h : schema.Exposes document) : schema.adminPaths ≠ [] := by
  induction h with
  | own there hidden _ =>
    exact List.ne_nil_of_mem (mem_adminPaths.2 ⟨_, there, .inl ⟨hidden, rfl⟩⟩)
  | @inside schema inner document part field value there embedded _ _ _ ih =>
    cases hidden : field.adminOnly with
    | true => exact List.ne_nil_of_mem (mem_adminPaths.2 ⟨_, there, .inl ⟨hidden, rfl⟩⟩)
    | false =>
      obtain ⟨rest, listed⟩ := List.exists_mem_of_ne_nil _ ih
      exact List.ne_nil_of_mem
        (mem_adminPaths.2 ⟨_, there, .inr ⟨hidden, inner, embedded, rest, listed, rfl⟩⟩)

end Schema

end DocumentQuery
