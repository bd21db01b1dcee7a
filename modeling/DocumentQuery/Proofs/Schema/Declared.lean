import DocumentQuery.Proofs.Schema.Structure

/-! Declared fields. A field is declared in a schema or in one embedded there, below a trail
of other fields, and both kinds of hidden paths are addresses of declared fields. Where
fields are stored apart, one address goes on from another only if the one field is
declared below the other.
-/

set_option autoImplicit false

namespace DocumentQuery

/-- A field is declared below some others, each of which embeds the schema of the next. -/
inductive Schema.Declares : Schema → List Field → Field → Prop
  | here {schema : Schema} {field : Field} : field ∈ schema.fields → Declares schema [] field
  | inside {schema inner : Schema} {outer field : Field} {trail : List Field} :
      outer ∈ schema.fields → outer.type.embeddedSchema? = some inner →
      Declares inner trail field → Declares schema (outer :: trail) field

/-- The stored path of a field below a trail of others. -/
def Field.address (trail : List Field) (field : Field) : Path :=
  trail.map (·.name) ++ [field.storageKey]

theorem Field.address_nil (field : Field) : field.address [] = [field.storageKey] := rfl

theorem Field.address_cons (outer : Field) (trail : List Field) (field : Field) :
    field.address (outer :: trail) = outer.name :: field.address trail := rfl

namespace Schema

variable {schema : Schema} {path : Path} {others : List String} {trail trail' : List Field}
  {field other : Field}

theorem exists_declares_of_mem_adminPaths (hidden : path ∈ schema.adminPaths) :
    ∃ trail field, schema.Declares trail field ∧ (∀ outer ∈ trail, outer.adminOnly = false) ∧
      field.adminOnly = true ∧ path = field.address trail := by
  induction path generalizing schema with
  | nil => exact absurd rfl (ne_nil_of_mem_adminPaths hidden)
  | cons key rest ih =>
    obtain ⟨field, there, ⟨admin, same⟩ | ⟨admin, inner, embedded, more, deeper, same⟩⟩ :=
      mem_adminPaths.1 hidden
    · exact ⟨[], field, .here there, by simp, admin, same⟩
    · cases same
      obtain ⟨trail, last, declared, free, kept, same⟩ := ih deeper
      refine ⟨field :: trail, last, .inside there embedded declared, ?_, kept, ?_⟩
      · exact List.forall_mem_cons.2 ⟨admin, free⟩
      · rw [same, Field.address_cons]

theorem exists_declares_of_mem_variantPaths (variant : path ∈ schema.variantPaths others) :
    ∃ trail field, schema.Declares trail field ∧ field.localized = true ∧
      ∃ locale ∈ others, path = field.address trail ++ [locale] := by
  induction path generalizing schema with
  | nil => exact absurd rfl (ne_nil_of_mem_variantPaths variant)
  | cons key rest ih =>
    obtain ⟨field, there, ⟨localized, locale, among, same⟩ |
      ⟨inner, embedded, more, deeper, same⟩⟩ := mem_variantPaths.1 variant
    · exact ⟨[], field, .here there, localized, locale, among, same⟩
    · cases same
      obtain ⟨trail, last, declared, localized, locale, among, same⟩ := ih deeper
      refine ⟨field :: trail, last, .inside there embedded declared, localized, locale, among, ?_⟩
      rw [same, Field.address_cons, List.cons_append]

theorem Declares.mem_variantPaths {locale : String} (declared : schema.Declares trail field)
    (localized : field.localized = true) (among : locale ∈ others) :
    field.address trail ++ [locale] ∈ schema.variantPaths others := by
  induction declared with
  | here there => exact Schema.mem_variantPaths.2 ⟨_, there, .inl ⟨localized, locale, among, rfl⟩⟩
  | inside there embedded _ ih =>
    exact Schema.mem_variantPaths.2 ⟨_, there, .inr ⟨_, embedded, _, ih localized, rfl⟩⟩

theorem Apart.eq_of_name (apart : schema.Apart) (there : field ∈ schema.fields)
    (listed : other ∈ schema.fields) (same : field.name = other.name) : field = other := by
  cases localized : field.localized with
  | false =>
    exact apart.here field there other listed (.inl (by simpa [Field.storageKey, localized]))
  | true =>
    cases varied : other.localized with
    | false =>
      exact (apart.here other listed field there
        (.inl (by simp [Field.storageKey, varied, same]))).symm
    | true =>
      exact apart.here field there other listed
        (.inr (by simp [Field.storageKey, localized, varied, same]))

/-- Where fields are stored apart, an address that starts with another is of the same field, or of
one declared below it. -/
theorem Declares.below_of_prefix (apart : schema.Apart) (declared : schema.Declares trail field)
    (declared' : schema.Declares trail' other)
    (starts : field.address trail <+: other.address trail') :
    (trail = trail' ∧ field = other) ∨
      (field.localized = false ∧ ∃ more, trail' = trail ++ field :: more) := by
  induction declared generalizing trail' with
  | here there =>
    rw [Field.address_nil] at starts
    cases declared' with
    | here listed =>
      rw [Field.address_nil] at starts
      have same := (List.cons_prefix_cons.1 starts).1
      exact .inl ⟨rfl, apart.here _ there _ listed (.inr same)⟩
    | inside listed embedded deeper =>
      rw [Field.address_cons] at starts
      have same := (List.cons_prefix_cons.1 starts).1
      cases apart.here _ there _ listed (.inl same)
      refine .inr ⟨Bool.eq_false_iff.2 fun localized => ?_, _, rfl⟩
      exact Field.storageKey_ne_name localized same
  | inside there embedded deeper ih =>
    rw [Field.address_cons] at starts
    cases declared' with
    | here listed =>
      rw [Field.address_nil] at starts
      have empty := List.prefix_nil.1 (List.cons_prefix_cons.1 starts).2
      simp [Field.address] at empty
    | inside listed embedded' deeper' =>
      rw [Field.address_cons] at starts
      obtain ⟨same, continues⟩ := List.cons_prefix_cons.1 starts
      cases apart.eq_of_name there listed same
      rw [embedded] at embedded'
      cases embedded'
      refine (ih (apart.inside there embedded) deeper' continues).imp ?_ ?_
      · rintro ⟨rfl, rfl⟩
        exact ⟨rfl, rfl⟩
      · rintro ⟨plain, more, rfl⟩
        exact ⟨plain, more, rfl⟩

end Schema

end DocumentQuery
