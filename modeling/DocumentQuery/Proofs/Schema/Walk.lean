import DocumentQuery.Population.Deep
import DocumentQuery.Proofs.Schema.Structure

/-! Walks from schema to schema. A path of field names leads through embedded documents within a
collection and across references to other collections. Where it leads, if it does, is given by its
steps, and a path can be taken up where another one has led.
-/

set_option autoImplicit false

namespace DocumentQuery

/-- A walk ends before a name that no field has, or that of a field of scalars. -/
def Schema.Ends (schema : Schema) (name : String) : Prop :=
  schema.fieldType? name = none ∨
    ∃ type scalar, schema.fieldType? name = some type ∧ type.primitive? = some scalar

/-- A walk by the names of fields, from a schema to another. Embedded fields stay inside the
collection, references go on in the one they point to. -/
inductive Registry.Walk (registry : Registry) : Schema → Path → Schema → Prop
  | here (schema : Schema) : Walk registry schema [] schema
  | inside {schema inner last : Schema} {name : String} {type : FieldType} {rest : Path} :
      schema.fieldType? name = some type → type.embeddedSchema? = some inner →
      Walk registry inner rest last → Walk registry schema (name :: rest) last
  | across {schema next last : Schema} {name target : String} {type : FieldType} {rest : Path} :
      schema.fieldType? name = some type → type.referenceTarget? = some target →
      registry.get? target = some next → Walk registry next rest last →
      Walk registry schema (name :: rest) last

theorem FieldType.kinds (type : FieldType) :
    (∃ scalar, type.primitive? = some scalar) ∨ (∃ target, type.referenceTarget? = some target) ∨
      ∃ inner, type.embeddedSchema? = some inner := by
  rw [primitive?, referenceTarget?, embeddedSchema?]
  cases element : type.element with
  | primitive scalar => exact .inl ⟨scalar, rfl⟩
  | reference target => exact .inr (.inl ⟨target, rfl⟩)
  | embedded inner => exact .inr (.inr ⟨inner, rfl⟩)
  | array inner => exact absurd element (type.element_ne_array inner)

theorem FieldType.leads_nowhere {type : FieldType} {scalar : Primitive}
    (plain : type.primitive? = some scalar) :
    type.referenceTarget? = none ∧ type.embeddedSchema? = none := by
  rw [primitive?] at plain
  rw [referenceTarget?, embeddedSchema?]
  cases element : type.element <;> simp_all

namespace Registry

theorem governing?_nil (registry : Registry) (schema : Schema) :
    registry.governing? [] schema = some schema := by
  rw [governing?]

theorem governing?_step (registry : Registry) (name : String) (rest : Path) (schema : Schema) :
    registry.governing? (name :: rest) schema =
      (schema.fieldType? name).bind fun type =>
        match type.element with
        | .embedded inner => registry.governing? rest inner
        | .reference target => (registry.get? target).bind (registry.governing? rest)
        | .primitive _ | .array _ => none := by
  rw [governing?]
  rfl

theorem governing?_last (registry : Registry) (name : String) (schema : Schema) :
    registry.governing? [name] schema =
      (schema.fieldType? name).bind fun type =>
        match type.element with
        | .embedded inner => some inner
        | .reference target => registry.get? target
        | .primitive _ | .array _ => none := by
  have ends : registry.governing? [] = some := funext (governing?_nil registry)
  rw [governing?_step, ends]
  simp only [Option.bind_fun_some]

theorem governing?_single {registry : Registry} {name : String} {schema next : Schema} :
    registry.governing? [name] schema = some next ↔
      ∃ type, schema.fieldType? name = some type ∧
        (type.embeddedSchema? = some next ∨
          ∃ target, type.referenceTarget? = some target ∧ registry.get? target = some next) := by
  rw [governing?_last]
  cases schema.fieldType? name with
  | none => simp
  | some type =>
    simp only [FieldType.embeddedSchema?, FieldType.referenceTarget?, Option.bind_some]
    cases element : type.element <;> simp [element]

theorem governing?_cons (registry : Registry) (name : String) (rest : Path) (schema : Schema) :
    registry.governing? (name :: rest) schema =
      (registry.governing? [name] schema).bind (registry.governing? rest) := by
  rw [governing?_step, governing?_last]
  cases schema.fieldType? name with
  | none => rfl
  | some type =>
    simp only [Option.bind_some]
    cases type.element <;> rfl

theorem deepTarget?_single {registry : Registry} {schema : Schema} {name target : String} :
    Population.deepTarget? registry schema [name] = some target ↔
      ∃ type, schema.fieldType? name = some type ∧ type.referenceTarget? = some target := by
  simp [Population.deepTarget?, governing?_nil, Option.bind_eq_some_iff]

theorem deepTarget?_cons {registry : Registry} {schema : Schema} {name next target : String}
    {rest : Path} :
    Population.deepTarget? registry schema (name :: next :: rest) = some target ↔
      ∃ inner, registry.governing? [name] schema = some inner ∧
        Population.deepTarget? registry inner (next :: rest) = some target := by
  simp only [Population.deepTarget?, List.dropLast_cons_cons, List.getLast?_cons_cons]
  rw [governing?_cons, Option.bind_eq_bind, Option.bind_assoc, Option.bind_eq_some_iff]

theorem deepTarget?_of_typeAt? (registry : Registry) {schema : Schema} {path : Path}
    {type : FieldType} {target : String} (typed : schema.typeAt? path = some type)
    (refers : type.referenceTarget? = some target) :
    Population.deepTarget? registry schema path = some target := by
  induction path generalizing schema with
  | nil => cases typed
  | cons name rest ih =>
    cases rest with
    | nil => exact deepTarget?_single.2 ⟨type, typed, refers⟩
    | cons next rest =>
      simp only [Schema.typeAt?, Option.bind_eq_bind, Option.bind_eq_some_iff] at typed
      obtain ⟨outer, found, inner, embedded, typed⟩ := typed
      exact deepTarget?_cons.2
        ⟨inner, governing?_single.2 ⟨outer, found, .inl embedded⟩, ih typed⟩

theorem governing?_eq_some_iff {registry : Registry} {path : Path} {schema last : Schema} :
    registry.governing? path schema = some last ↔ registry.Walk schema path last := by
  induction path generalizing schema with
  | nil =>
    rw [governing?_nil]
    constructor
    · rintro ⟨⟩
      exact .here _
    · intro walk
      cases walk
      rfl
  | cons name rest ih =>
    rw [governing?_cons, Option.bind_eq_some_iff]
    constructor
    · rintro ⟨next, step, further⟩
      obtain ⟨type, typed, embedded | ⟨target, refers, found⟩⟩ := governing?_single.1 step
      · exact .inside typed embedded (ih.1 further)
      · exact .across typed refers found (ih.1 further)
    · intro walk
      cases walk with
      | inside typed embedded further =>
        exact ⟨_, governing?_single.2 ⟨_, typed, .inl embedded⟩, ih.2 further⟩
      | across typed refers found further =>
        exact ⟨_, governing?_single.2 ⟨_, typed, .inr ⟨_, refers, found⟩⟩, ih.2 further⟩

theorem governing?_append (registry : Registry) (before after : Path) (schema : Schema) :
    registry.governing? (before ++ after) schema =
      (registry.governing? before schema).bind (registry.governing? after) := by
  induction before generalizing schema with
  | nil => rw [List.nil_append, governing?_nil, Option.bind_some]
  | cons name rest ih =>
    rw [List.cons_append, governing?_cons, governing?_cons _ _ rest]
    cases registry.governing? [name] schema with
    | none => rfl
    | some next => exact ih next

end Registry

end DocumentQuery
