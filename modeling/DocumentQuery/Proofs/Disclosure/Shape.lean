import DocumentQuery.Proofs.Disclosure.Leak
import DocumentQuery.Proofs.Projection.Exclusion

/-! Shaped documents under selections. Removing a path keeps the shape of a document. In
a shaped document without blind spots whatever leaks lies at a hidden path, so a
selection that excludes the hidden paths leaves nothing to leak.
-/

set_option autoImplicit false

namespace DocumentQuery

namespace FieldType

theorem Fits.of_document {type : FieldType} {document : Document}
    (fits : type.Fits (.document document)) :
    ∃ schema, type = .embedded schema ∧ schema.Shapes document := by
  cases fits with
  | @scalar scalar _ admitted => cases scalar <;> cases admitted
  | embedded shaped => exact ⟨_, rfl, shaped⟩

theorem Fits.of_array {type : FieldType} {items : List Value} (fits : type.Fits (.array items)) :
    ∃ inner, type = .array inner ∧ ∀ item ∈ items, inner.Fits item := by
  cases fits with
  | @scalar scalar _ admitted => cases scalar <;> cases admitted
  | array each => exact ⟨_, rfl, each⟩

theorem Fits.mapDocuments {type : FieldType} {value : Value} {change : Document → Document}
    (fits : type.Fits value)
    (keeps : ∀ schema : Schema, ∀ document, schema.Shapes document →
      schema.Shapes (change document)) : type.Fits (value.mapDocuments change) := by
  cases fits with
  | null => exact .null
  | @scalar scalar _ admitted =>
    -- A scalar is no document and no array, so there is nothing to change in it.
    have same : value.mapDocuments change = value := by
      cases value <;> first | rfl | (cases scalar <;> cases admitted)
    rw [same]
    exact .scalar admitted
  | reference => exact .reference
  | embedded shaped => exact .embedded (keeps _ _ shaped)
  | array each =>
    refine .array fun item there => ?_
    obtain ⟨before, listed, rfl⟩ := List.mem_map.1 there
    have fits := each before listed
    cases before with
    | document fields =>
      obtain ⟨schema, rfl, shaped⟩ := fits.of_document
      exact .embedded (keeps _ _ shaped)
    | _ => exact fits

theorem Fits.holds {type : FieldType} {value : Value} {part : Document} (fits : type.Fits value)
    (held : value.Holds part) :
    ∃ inner, type.embeddedSchema? = some inner ∧ inner.Shapes part := by
  induction held generalizing type with
  | here =>
    obtain ⟨schema, rfl, shaped⟩ := fits.of_document
    exact ⟨schema, rfl, shaped⟩
  | item there _ ih =>
    obtain ⟨inner, rfl, each⟩ := fits.of_array
    obtain ⟨schema, embedded, shaped⟩ := ih (each _ there)
    exact ⟨schema, embedded, shaped⟩

theorem Fits.mem_documents {type : FieldType} {value : Value} {part : Document}
    (fits : type.Fits value) (flat : type.layers ≤ 1) (held : value.Holds part) :
    part ∈ value.documents := by
  cases held with
  | here => simp [Value.documents]
  | @item items item _ there held =>
    obtain ⟨inner, rfl, each⟩ := fits.of_array
    cases held with
    | here => exact List.mem_filterMap.2 ⟨_, there, rfl⟩
    | item _ _ =>
      obtain ⟨element, rfl, _⟩ := (each _ there).of_array
      simp [layers] at flat

end FieldType

namespace Schema

theorem Shapes.framed {schema : Schema} {document : Document} (h : schema.Shapes document) :
    ∀ field ∈ schema.fields, field.Framed document := by
  cases h with
  | intro framed _ => exact framed

theorem Shapes.fits {schema : Schema} {document : Document} (h : schema.Shapes document) :
    ∀ field ∈ schema.fields, ∀ value, field.Stores document value → field.type.Fits value := by
  cases h with
  | intro _ fits => exact fits

/-- What a document holds at a key after a removal: nothing, or what it held with the removal
carried on inside. -/
theorem get?_without {document : Document} {path : Path} {key : String} {value : Value}
    (found : (document.without path).get? key = some value) :
    ∃ before, document.get? key = some before ∧
      (value = before ∨ ∃ rest : Path, rest.length < path.length ∧
        value = before.mapDocuments (Document.without rest)) := by
  cases path with
  | nil => exact ⟨value, found, .inl rfl⟩
  | cons first rest =>
    cases rest with
    | nil =>
      rw [Document.without, Document.get?_erase] at found
      split at found
      · cases found
      · exact ⟨value, found, .inl rfl⟩
    | cons next rest =>
      rw [Document.without_cons_cons, Document.get?_modify] at found
      split at found
      · obtain ⟨before, there, rfl⟩ := Option.map_eq_some_iff.1 found
        exact ⟨before, there, .inr ⟨next :: rest, by simp, rfl⟩⟩
      · exact ⟨value, found, .inl rfl⟩

theorem Shapes.without {schema : Schema} {document : Document} (path : Path)
    (shaped : schema.Shapes document) : schema.Shapes (document.without path) := by
  generalize bound : path.length = length
  induction length using Nat.strongRecOn generalizing schema document path with
  | ind length ih =>
    have carried {type : FieldType} {value : Value} {rest : Path} (shorter : rest.length < length)
        (fits : type.Fits value) : type.Fits (value.mapDocuments (Document.without rest)) :=
      fits.mapDocuments fun schema document shaped => ih rest.length shorter rest shaped rfl
    refine .intro (fun field there localized => ?_) fun field there value stored => ?_
    · obtain ⟨bare, variants⟩ := shaped.framed field there localized
      constructor
      · cases found : (document.without path).get? field.name with
        | none => rfl
        | some value =>
          obtain ⟨before, earlier, _⟩ := get?_without found
          rw [bare] at earlier
          cases earlier
      · intro value found
        obtain ⟨before, earlier, same | ⟨rest, _, same⟩⟩ := get?_without found
        · rw [same]
          exact variants before earlier
        · obtain ⟨fields, rfl⟩ := variants before earlier
          exact ⟨_, same⟩
    · cases stored with
      | plain bare found =>
        obtain ⟨before, earlier, same⟩ := get?_without found
        have fits := shaped.fits field there before (.plain bare earlier)
        rcases same with rfl | ⟨rest, shorter, rfl⟩
        · exact fits
        · exact carried (bound ▸ shorter) fits
      | variant localized found chosen =>
        obtain ⟨before, earlier, same⟩ := get?_without found
        rcases same with rfl | ⟨rest, shorter, same⟩
        · exact shaped.fits field there value (.variant localized earlier chosen)
        · -- The removal went on among the variants, and maybe inside of one of them.
          obtain ⟨fields, rfl⟩ := (shaped.framed field there localized).2 before earlier
          cases same
          obtain ⟨old, chosen, same⟩ := get?_without chosen
          have fits := shaped.fits field there old (.variant localized earlier chosen)
          rcases same with rfl | ⟨more, still, rfl⟩
          · exact fits
          · exact carried (by omega) fits

/-- In a shaped document without blind spots, whatever leaks lies at a hidden path. -/
theorem Shapes.hidden_of_leaks {registry : Registry} {schema : Schema} {document : Document}
    (shaped : schema.Shapes document) (built : schema.Built) (sighted : ¬ schema.BlindSpot)
    (leak : registry.Leaks schema document) :
    ∃ path ∈ schema.adminPaths, document.valuesAt path ≠ [] := by
  induction leak with
  | @own schema document field there hidden stored =>
    refine ⟨_, mem_adminPaths.2 ⟨field, there, .inl ⟨hidden, rfl⟩⟩, ?_⟩
    obtain ⟨value, found⟩ := Option.isSome_iff_exists.1 stored
    rw [Document.valuesAt_cons, found]
    simp [Value.valuesAt]
  | @further schema next document part name value governs found held leak ih =>
    obtain ⟨type, typed, leads⟩ := Registry.governing?_single.1 governs
    obtain ⟨field, there, rfl, rfl⟩ := fieldType?_eq typed
    have bare : field.localized = false := by
      cases localized : field.localized with
      | false => rfl
      | true =>
        rw [(shaped.framed field there localized).1] at found
        cases found
    have fits := shaped.fits field there value (.plain bare found)
    obtain ⟨inner, embedded, inside⟩ := fits.holds held
    have same : inner = next := by
      rcases leads with again | ⟨target, refers, _⟩
      · rw [embedded] at again
        exact Option.some.inj again
      · rw [FieldType.embeddedSchema?_of_referenceTarget? refers] at embedded
        cases embedded
    subst same
    cases hidden : field.adminOnly with
    | true =>
      refine ⟨_, mem_adminPaths.2 ⟨field, there, .inl ⟨hidden, rfl⟩⟩, ?_⟩
      rw [Document.valuesAt_cons, Field.storageKey, bare]
      simp [found, Value.valuesAt]
    | false =>
      obtain ⟨path, listed, reached⟩ := ih inside (built.inside there embedded)
        fun blind => sighted (.inside there hidden embedded blind)
      have flat : field.type.layers ≤ 1 := by
        by_contra deep
        refine sighted (.here there hidden embedded (List.ne_nil_of_mem listed) (.inr ?_))
        omega
      refine ⟨field.name :: path, mem_adminPaths.2
        ⟨field, there, .inr ⟨hidden, inner, embedded, path, listed, rfl⟩⟩, ?_⟩
      rw [Document.valuesAt_cons, found, Option.map_some, Option.getD_some]
      cases path with
      | nil => exact absurd rfl (ne_nil_of_mem_adminPaths listed)
      | cons key path =>
        rw [Value.valuesAt_cons]
        intro empty
        exact reached (List.flatMap_eq_nil_iff.1 empty part (fits.mem_documents flat held))

theorem Shapes.not_leaks_applyTo {registry : Registry} {schema : Schema} {document : Document}
    {projection : Option Projection} {others : List String} (shaped : schema.Shapes document)
    (built : schema.Built) (dotless : schema.Dotless) (sighted : ¬ schema.BlindSpot)
    (excludes : Projection.ExcludesExactly projection
      (schema.adminPaths.map Path.text ++ others)) :
    ¬ registry.Leaks schema (Projection.applyTo projection document) := by
  intro leak
  have kept : schema.Shapes (Projection.applyTo projection document) :=
    Projection.applyTo_keeps excludes (fun _ _ _ shaped => shaped.without _) shaped
  obtain ⟨path, listed, reached⟩ := kept.hidden_of_leaks built sighted leak
  refine reached (Projection.valuesAt_applyTo excludes document ?_ ?_ ?_)
  · exact List.mem_append_left _ (List.mem_map_of_mem listed)
  · exact dotless.ofText_adminPath listed
  · exact ne_nil_of_mem_adminPaths listed

end Schema

end DocumentQuery
