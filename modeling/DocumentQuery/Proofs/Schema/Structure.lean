import DocumentQuery.Schema.Registry

/-! The structure of schemas. A property can be asked of a schema and of all schemas
embedded in it; a built registry holds schemas whose fields have one name each, at
every depth, under their own names. The paths that a schema hides are described field
by field.
-/

set_option autoImplicit false

namespace DocumentQuery

/-- A property holds of a schema and of every schema embedded in it, at any depth. -/
inductive Schema.Throughout (holds : Schema → Prop) : Schema → Prop
  | intro {schema : Schema} : holds schema →
      (∀ field ∈ schema.fields, ∀ inner, field.type.embeddedSchema? = some inner →
        Throughout holds inner) → Throughout holds schema

theorem Schema.Throughout.here {holds : Schema → Prop} {schema : Schema}
    (h : schema.Throughout holds) : holds schema := by
  cases h with
  | intro here _ => exact here

theorem Schema.Throughout.inside {holds : Schema → Prop} {schema inner : Schema} {field : Field}
    (h : schema.Throughout holds) (there : field ∈ schema.fields)
    (embedded : field.type.embeddedSchema? = some inner) : inner.Throughout holds := by
  cases h with
  | intro _ inside => exact inside field there inner embedded

theorem Schema.Throughout.of_flat {holds : Schema → Prop} {schema : Schema}
    (flat : ∀ field ∈ schema.fields, field.type.embeddedSchema? = none) (here : holds schema) :
    schema.Throughout holds := by
  refine .intro here fun field there inner embedded => ?_
  rw [flat field there] at embedded
  cases embedded

def Schema.Built : Schema → Prop :=
  Throughout fun schema => ∃ name declared, build name declared = .ok schema

/-- No field of the schema or of an embedded one has a dot in its name. -/
def Schema.Dotless : Schema → Prop :=
  Throughout fun schema => ∀ field ∈ schema.fields, '.' ∉ field.name.toList

/-- No field, of the schema or of an embedded one, is stored under the name or the storage key of
another. -/
def Schema.Apart : Schema → Prop :=
  Throughout fun schema => ∀ field ∈ schema.fields, ∀ other ∈ schema.fields,
    field.storageKey = other.name ∨ field.storageKey = other.storageKey → field = other

def Registry.Built (registry : Registry) : Prop :=
  ∃ schemas journal, (∀ schema ∈ schemas, schema.Built) ∧ build schemas journal = .ok registry

def Registry.Dotless (registry : Registry) : Prop :=
  ∀ name schema, registry.get? name = some schema → schema.Dotless

namespace Schema

theorem nodup_of_firstRepeated {seen names : List String} (h : firstRepeated? seen names = none) :
    names.Nodup ∧ ∀ name ∈ names, name ∉ seen := by
  induction names generalizing seen with
  | nil => simp
  | cons name rest ih =>
    rw [firstRepeated?] at h
    split at h
    · cases h
    · rename_i fresh
      obtain ⟨distinct, apart⟩ := ih h
      refine ⟨List.nodup_cons.2 ⟨fun again => apart name again (by simp), distinct⟩, ?_⟩
      intro other there
      rcases List.mem_cons.1 there with rfl | there
      · exact fresh
      · exact fun earlier => apart other there (List.mem_cons_of_mem _ earlier)

theorem nodup_names_of_build {name : String} {declared : List Field} {schema : Schema}
    (h : build name declared = .ok schema) : (schema.fields.map (·.name)).Nodup := by
  simp only [build] at h
  split at h
  · cases h
  · rename_i distinct
    have distinct := (nodup_of_firstRepeated distinct).1
    cases h
    split
    · exact distinct
    · rename_i absent
      exact List.nodup_cons.2 ⟨absent, distinct⟩

theorem Built.nodup_names {schema : Schema} (h : schema.Built) :
    (schema.fields.map (·.name)).Nodup := by
  obtain ⟨name, declared, built⟩ := h.here
  exact nodup_names_of_build built

theorem field?_mem {schema : Schema} {name : String} {field : Field}
    (h : schema.field? name = some field) : field ∈ schema.fields ∧ field.name = name :=
  ⟨List.mem_of_find?_eq_some h, by simpa using List.find?_some h⟩

theorem field?_of_mem {schema : Schema} {field : Field}
    (distinct : (schema.fields.map (·.name)).Nodup) (there : field ∈ schema.fields) :
    schema.field? field.name = some field := by
  obtain ⟨name, fields⟩ := schema
  simp only [field?] at *
  induction fields with
  | nil => simp at there
  | cons first rest ih =>
    obtain ⟨fresh, distinct⟩ := List.nodup_cons.1 distinct
    rcases List.mem_cons.1 there with rfl | there
    · simp
    · have other : first.name ≠ field.name :=
        fun same => fresh (List.mem_map.2 ⟨field, there, same.symm⟩)
      rw [List.find?_cons_of_neg (by simpa using other)]
      exact ih distinct there

theorem fieldType?_eq {schema : Schema} {name : String} {type : FieldType}
    (h : schema.fieldType? name = some type) :
    ∃ field ∈ schema.fields, field.name = name ∧ field.type = type := by
  obtain ⟨field, found, rfl⟩ := Option.map_eq_some_iff.1 h
  obtain ⟨there, named⟩ := field?_mem found
  exact ⟨field, there, named, rfl⟩

theorem fieldType?_of_mem {schema : Schema} {field : Field}
    (distinct : (schema.fields.map (·.name)).Nodup) (there : field ∈ schema.fields) :
    schema.fieldType? field.name = some field.type := by
  rw [fieldType?, field?_of_mem distinct there]
  rfl

end Schema

theorem FieldType.element_ne_array (type inner : FieldType) : type.element ≠ .array inner := by
  fun_induction FieldType.element type with
  | case1 element ih => exact ih
  | case2 type other => exact other inner

theorem FieldType.embeddedSchema?_of_referenceTarget? {type : FieldType} {target : String}
    (refers : type.referenceTarget? = some target) : type.embeddedSchema? = none := by
  rw [referenceTarget?] at refers
  rw [embeddedSchema?]
  split at refers
  · rename_i element
    rw [element]
  · cases refers

theorem FieldType.adminPaths_eq : ∀ type : FieldType,
    type.adminPaths = (type.embeddedSchema?.map Schema.adminPaths).getD []
  | .embedded _ => by simp [adminPaths, embeddedSchema?, element]
  | .array inner => by
    rw [adminPaths, adminPaths_eq inner]
    rfl
  | .primitive _ => by simp [adminPaths, embeddedSchema?, element]
  | .reference _ => by simp [adminPaths, embeddedSchema?, element]

theorem FieldType.variantPaths_eq (others : List String) : ∀ type : FieldType,
    type.variantPaths others = (type.embeddedSchema?.map (·.variantPaths others)).getD []
  | .embedded _ => by simp [variantPaths, embeddedSchema?, element]
  | .array inner => by
    rw [variantPaths, variantPaths_eq others inner]
    rfl
  | .primitive _ => by simp [variantPaths, embeddedSchema?, element]
  | .reference _ => by simp [variantPaths, embeddedSchema?, element]

theorem Field.mem_adminPaths {path : Path} {fields : List Field} :
    path ∈ Field.adminPaths fields ↔ ∃ field ∈ fields,
      (field.adminOnly = true ∧ path = [field.storageKey]) ∨
      (field.adminOnly = false ∧ ∃ rest ∈ field.type.adminPaths, path = field.name :: rest) := by
  induction fields with
  | nil => simp [Field.adminPaths]
  | cons field rest ih =>
    obtain ⟨name, type, localized, adminOnly⟩ := field
    simp only [Field.adminPaths, List.mem_append, ih, List.mem_cons, or_and_right, exists_or,
      exists_eq_left]
    cases adminOnly <;> simp [eq_comm (a := path)]

theorem Field.mem_variantPaths {path : Path} {others : List String} {fields : List Field} :
    path ∈ Field.variantPaths others fields ↔ ∃ field ∈ fields,
      (field.localized = true ∧ ∃ locale ∈ others, path = [field.storageKey, locale]) ∨
      (∃ rest ∈ field.type.variantPaths others, path = field.name :: rest) := by
  induction fields with
  | nil => simp [Field.variantPaths]
  | cons field rest ih =>
    obtain ⟨name, type, localized, adminOnly⟩ := field
    simp only [Field.variantPaths, List.mem_append, ih, List.mem_cons, or_and_right, exists_or,
      exists_eq_left]
    cases localized <;> simp [eq_comm (a := path)]

namespace Schema

/-- A hidden path ends in an admin-only field of the schema, or leads through an embedded field
to a path hidden there. -/
theorem mem_adminPaths {path : Path} {schema : Schema} :
    path ∈ schema.adminPaths ↔ ∃ field ∈ schema.fields,
      (field.adminOnly = true ∧ path = [field.storageKey]) ∨
      (field.adminOnly = false ∧ ∃ inner, field.type.embeddedSchema? = some inner ∧
        ∃ rest ∈ inner.adminPaths, path = field.name :: rest) := by
  obtain ⟨name, fields⟩ := schema
  rw [adminPaths, Field.mem_adminPaths]
  simp only [FieldType.adminPaths_eq]
  refine exists_congr fun field => and_congr_right fun _ =>
    or_congr_right (and_congr_right fun _ => ?_)
  cases field.type.embeddedSchema? <;> simp

/-- A path of a variant ends in a localized field with another locale, or leads through an
embedded field to such a path there. -/
theorem mem_variantPaths {path : Path} {others : List String} {schema : Schema} :
    path ∈ schema.variantPaths others ↔ ∃ field ∈ schema.fields,
      (field.localized = true ∧ ∃ locale ∈ others, path = [field.storageKey, locale]) ∨
      (∃ inner, field.type.embeddedSchema? = some inner ∧
        ∃ rest ∈ inner.variantPaths others, path = field.name :: rest) := by
  obtain ⟨name, fields⟩ := schema
  rw [variantPaths, Field.mem_variantPaths]
  simp only [FieldType.variantPaths_eq]
  refine exists_congr fun field => and_congr_right fun _ => or_congr_right ?_
  cases field.type.embeddedSchema? <;> simp

theorem ne_nil_of_mem_adminPaths {path : Path} {schema : Schema}
    (there : path ∈ schema.adminPaths) : path ≠ [] := by
  obtain ⟨_, _, ⟨_, rfl⟩ | ⟨_, _, _, _, _, rfl⟩⟩ := mem_adminPaths.1 there <;>
    exact List.cons_ne_nil _ _

theorem ne_nil_of_mem_variantPaths {path : Path} {others : List String} {schema : Schema}
    (there : path ∈ schema.variantPaths others) : path ≠ [] := by
  obtain ⟨_, _, ⟨_, _, _, rfl⟩ | ⟨_, _, _, _, rfl⟩⟩ := mem_variantPaths.1 there <;>
    exact List.cons_ne_nil _ _

end Schema

theorem Text.splitAt_intercalate {c : Char} {pieces : List String} (nonempty : pieces ≠ [])
    (apart : ∀ piece ∈ pieces, c ∉ piece.toList) :
    splitAt c ((String.singleton c).intercalate pieces) = pieces := by
  have divided : ((String.singleton c).intercalate pieces).toList.splitOn c =
      pieces.map String.toList := by
    rw [String.toList_intercalate, String.toList_singleton]
    refine List.splitOn_intercalate c ?_ (by simpa using nonempty)
    intro text there
    obtain ⟨piece, listed, rfl⟩ := List.mem_map.1 there
    exact apart piece listed
  rw [splitAt, divided, List.map_map]
  simp [Function.comp_def]

theorem Path.ofText_text {path : Path} (nonempty : path ≠ [])
    (dotless : ∀ key ∈ path, '.' ∉ key.toList) : ofText path.text = path :=
  Text.splitAt_intercalate nonempty dotless

theorem Path.ofText_single {key : String} (dotless : '.' ∉ key.toList) : ofText key = [key] := by
  have whole : Path.text [key] = key := by simp [Path.text]
  have single : ofText (Path.text [key]) = [key] :=
    ofText_text (List.cons_ne_nil key []) (by simpa using dotless)
  rwa [whole] at single

theorem Field.storageKey_ne_name {field : Field} (localized : field.localized = true) :
    field.storageKey ≠ field.name := by
  intro same
  have longer := congrArg String.length same
  simp [storageKey, localized, String.length_append] at longer

theorem Field.dotless_storageKey {field : Field} (dotless : '.' ∉ field.name.toList) :
    '.' ∉ field.storageKey.toList := by
  rw [storageKey]
  split
  · simp [String.toList_append, dotless]
  · exact dotless

theorem Schema.Dotless.of_mem_adminPaths {path : Path} {schema : Schema} (dotless : schema.Dotless)
    (there : path ∈ schema.adminPaths) : ∀ key ∈ path, '.' ∉ key.toList := by
  induction path generalizing schema with
  | nil => simp
  | cons key rest ih =>
    obtain ⟨field, listed, ⟨_, same⟩ | ⟨_, inner, embedded, more, hidden, same⟩⟩ :=
      mem_adminPaths.1 there
    · cases same
      simpa using Field.dotless_storageKey (dotless.here field listed)
    · cases same
      intro key' there
      rcases List.mem_cons.1 there with rfl | there
      · exact dotless.here field listed
      · exact ih (dotless.inside listed embedded) hidden key' there

theorem Schema.Dotless.of_mem_variantPaths {path : Path} {others : List String} {schema : Schema}
    (dotless : schema.Dotless) (plain : ∀ locale ∈ others, '.' ∉ locale.toList)
    (there : path ∈ schema.variantPaths others) : ∀ key ∈ path, '.' ∉ key.toList := by
  induction path generalizing schema with
  | nil => simp
  | cons key rest ih =>
    obtain ⟨field, listed, ⟨_, locale, among, same⟩ | ⟨inner, embedded, more, variant, same⟩⟩ :=
      mem_variantPaths.1 there
    · cases same
      simpa using ⟨Field.dotless_storageKey (dotless.here field listed), plain locale among⟩
    · cases same
      intro key' there
      rcases List.mem_cons.1 there with rfl | there
      · exact dotless.here field listed
      · exact ih (dotless.inside listed embedded) variant key' there

theorem Schema.Dotless.ofText_adminPath {path : Path} {schema : Schema} (dotless : schema.Dotless)
    (there : path ∈ schema.adminPaths) : Path.ofText path.text = path :=
  Path.ofText_text (ne_nil_of_mem_adminPaths there) (dotless.of_mem_adminPaths there)

theorem Schema.Dotless.ofText_variantPath {path : Path} {others : List String} {schema : Schema}
    (dotless : schema.Dotless) (plain : ∀ locale ∈ others, '.' ∉ locale.toList)
    (there : path ∈ schema.variantPaths others) : Path.ofText path.text = path :=
  Path.ofText_text (ne_nil_of_mem_variantPaths there) (dotless.of_mem_variantPaths plain there)

end DocumentQuery
