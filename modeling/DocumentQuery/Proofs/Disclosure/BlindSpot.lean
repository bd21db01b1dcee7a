import DocumentQuery.Proofs.Disclosure.Shape

/-! Documents in blind spots. A schema with a blind spot has a shaped document that
exposes something there and that no hidden path touches, provided that its fields are
stored apart from each other.
-/

set_option autoImplicit false

namespace DocumentQuery

def FieldType.sample : FieldType → Value
  | .primitive .string => .string ""
  | .primitive .number => .int64 0
  | .primitive .boolean => .bool false
  | .primitive .date => .date ⟨0⟩
  | .primitive .objectId | .reference _ => .objectId ⟨0⟩
  | .embedded _ => .document []
  | .array _ => .array []

def FieldType.wrap : FieldType → Document → Value
  | .array inner, document => .array [inner.wrap document]
  | _, document => .document document

/-- The document that stores one value for a field, as the variant for a locale if localized. -/
def Field.hold (field : Field) (locale : String) (value : Value) : Document :=
  [(field.storageKey, if field.localized then .document [(locale, value)] else value)]

namespace Schema

theorem shapes_nil (schema : Schema) : schema.Shapes [] := by
  refine .intro (fun field _ _ => ⟨rfl, fun value found => ?_⟩) fun field _ value stored => ?_
  · cases found
  · cases stored with
    | plain _ found => cases found
    | variant _ found _ => cases found

theorem Exposes.mono {schema : Schema} {document larger : Document} (h : schema.Exposes document)
    (more : ∀ key value, document.get? key = some value → larger.get? key = some value) :
    schema.Exposes larger := by
  cases h with
  | own there hidden stored =>
    obtain ⟨value, found⟩ := Option.isSome_iff_exists.1 stored
    exact .own there hidden (by simp [Document.hasKey, more _ _ found])
  | inside there embedded stored held exposed =>
    refine .inside there embedded ?_ held exposed
    cases stored with
    | plain bare found => exact .plain bare (more _ _ found)
    | variant localized found chosen => exact .variant localized (more _ _ found) chosen

end Schema

namespace FieldType

theorem fits_sample (type : FieldType) : type.Fits type.sample := by
  cases type with
  | primitive scalar => cases scalar <;> exact .scalar rfl
  | reference target => exact .reference
  | embedded schema => exact .embedded schema.shapes_nil
  | array inner => exact .array (by simp)

theorem fits_wrap {inner : Schema} {part : Document} (shaped : inner.Shapes part) :
    ∀ {type : FieldType}, type.embeddedSchema? = some inner → type.Fits (type.wrap part)
  | .embedded schema, goes => by
    cases goes
    exact .embedded shaped
  | .array element, goes => by
    refine .array fun item there => ?_
    rw [List.mem_singleton.1 there]
    exact fits_wrap shaped goes
  | .primitive _, goes | .reference _, goes => by cases goes

theorem holds_wrap (part : Document) : ∀ type : FieldType, (type.wrap part).Holds part
  | .array inner => .item List.mem_cons_self (holds_wrap part inner)
  | .embedded _ | .primitive _ | .reference _ => .here

theorem mapDocuments_wrap {type : FieldType} {part : Document} {change : Document → Document}
    (kept : 2 ≤ type.layers ∨ change part = part) :
    (type.wrap part).mapDocuments change = type.wrap part := by
  cases type with
  | array inner =>
    cases inner with
    | array _ => rfl
    | _ =>
      simp only [layers] at kept
      have same : change part = part := kept.resolve_left (by omega)
      simp [wrap, Value.mapDocuments, same]
  | _ =>
    simp only [layers] at kept
    have same : change part = part := kept.resolve_left (by omega)
    simp [wrap, Value.mapDocuments, same]

end FieldType

namespace Field

theorem stores_hold (field : Field) (locale : String) (value : Value) :
    field.Stores (field.hold locale value) value := by
  cases localized : field.localized with
  | false => exact .plain localized (by simp [hold, storageKey, localized, Document.get?])
  | true =>
    have found : (field.hold locale value).get? field.storageKey =
        some (.document [(locale, value)]) := by simp [hold, localized, Document.get?]
    have chosen : Document.get? [(locale, value)] locale = some value := by simp [Document.get?]
    exact .variant localized found chosen

theorem get?_hold {field : Field} {locale key : String} {value found : Value}
    (h : (field.hold locale value).get? key = some found) :
    key = field.storageKey ∧
      found = if field.localized then .document [(locale, value)] else value := by
  simp only [hold, Document.get?] at h
  split at h
  · rename_i same
    cases h
    exact ⟨same.symm, rfl⟩
  · cases h

theorem without_hold_of_ne {field : Field} {locale key : String} {value : Value} {rest : Path}
    (other : field.storageKey ≠ key) :
    (field.hold locale value).without (key :: rest) = field.hold locale value := by
  rw [hold, Document.without_entry_of_ne _ _ _ other, Document.without_empty]

end Field

namespace Schema

variable {schema inner : Schema} {field : Field} {locale : String} {value : Value}

theorem shapes_hold (apart : schema.Apart) (there : field ∈ schema.fields)
    (fits : field.type.Fits value) : schema.Shapes (field.hold locale value) := by
  refine .intro (fun other listed localized => ⟨?_, fun found stored => ?_⟩)
    fun other listed found stored => ?_
  · cases stored : (field.hold locale value).get? other.name with
    | none => rfl
    | some found =>
      obtain ⟨same, _⟩ := Field.get?_hold stored
      cases apart.here field there other listed (.inl same.symm)
      exact absurd same.symm (Field.storageKey_ne_name localized)
  · obtain ⟨same, content⟩ := Field.get?_hold stored
    cases apart.here field there other listed (.inr same.symm)
    rw [content, if_pos localized]
    exact ⟨_, rfl⟩
  · cases stored with
    | plain bare stored =>
      obtain ⟨same, content⟩ := Field.get?_hold stored
      cases apart.here field there other listed (.inl same.symm)
      simp only [bare, Bool.false_eq_true, if_false] at content
      rw [content]
      exact fits
    | variant localized stored chosen =>
      obtain ⟨same, content⟩ := Field.get?_hold stored
      cases apart.here field there other listed (.inr same.symm)
      simp only [localized, if_true, Value.document.injEq] at content
      rw [content] at chosen
      simp only [Document.get?] at chosen
      split at chosen
      · cases chosen
        exact fits
      · cases chosen

theorem exists_exposed (apart : schema.Apart) (hides : schema.adminPaths ≠ []) :
    ∃ document, schema.Shapes document ∧ schema.Exposes document := by
  obtain ⟨path, listed⟩ := List.exists_mem_of_ne_nil _ hides
  clear hides
  induction path generalizing schema with
  | nil => exact absurd rfl (ne_nil_of_mem_adminPaths listed)
  | cons key rest ih =>
    obtain ⟨field, there, ⟨hidden, _⟩ | ⟨_, inner, embedded, more, deeper, same⟩⟩ :=
      mem_adminPaths.1 listed
    · refine ⟨field.hold "" field.type.sample, shapes_hold apart there field.type.fits_sample,
        .own there hidden ?_⟩
      simp [Field.hold, Document.hasKey, Document.get?]
    · cases same
      obtain ⟨part, shaped, exposed⟩ := ih (apart.inside there embedded) deeper
      refine ⟨field.hold "" (field.type.wrap part),
        shapes_hold apart there (FieldType.fits_wrap shaped embedded), ?_⟩
      exact .inside there embedded (field.stores_hold _ _) (FieldType.holds_wrap part field.type)
        exposed

/-- The stored paths that a selection may remove: those kept for administrators, and those of
variants for other locales. -/
def Removable (schema : Schema) (others : List String) (path : Path) : Prop :=
  path ∈ schema.adminPaths ∨ path ∈ schema.variantPaths others

/-- A removable path ends in a field that is hidden or localized, or goes on below the name of a
field to a path that is removable there. -/
theorem Removable.cases {others : List String} {path : Path} (h : schema.Removable others path) :
    ∃ field ∈ schema.fields,
      (field.adminOnly = true ∧ path = [field.storageKey]) ∨
      (field.localized = true ∧ ∃ locale ∈ others, path = [field.storageKey, locale]) ∨
      ∃ inner, field.type.embeddedSchema? = some inner ∧
        ∃ rest, inner.Removable others rest ∧ path = field.name :: rest := by
  rcases h with hidden | variant
  · obtain ⟨field, there, ends | ⟨_, inner, goes, rest, deeper, same⟩⟩ := mem_adminPaths.1 hidden
    · exact ⟨field, there, .inl ends⟩
    · exact ⟨field, there, .inr (.inr ⟨inner, goes, rest, .inl deeper, same⟩)⟩
  · obtain ⟨field, there, ends | ⟨inner, goes, rest, deeper, same⟩⟩ := mem_variantPaths.1 variant
    · exact ⟨field, there, .inr (.inl ends)⟩
    · exact ⟨field, there, .inr (.inr ⟨inner, goes, rest, .inr deeper, same⟩)⟩

theorem Removable.ne_nil {others : List String} {path : Path} (h : schema.Removable others path) :
    path ≠ [] :=
  h.elim ne_nil_of_mem_adminPaths ne_nil_of_mem_variantPaths

/-- A removable path that starts at a field stored apart from the others is about that field. -/
theorem without_hold {others : List String} {part : Document} {path : Path} (apart : schema.Apart)
    (there : field ∈ schema.fields) (shown : field.adminOnly = false) (fresh : locale ∉ others)
    (embedded : field.type.embeddedSchema? = some inner)
    (kept : field.localized = true ∨ 2 ≤ field.type.layers ∨
      ∀ rest, inner.Removable others rest → part.without rest = part)
    (removable : schema.Removable others path) :
    (field.hold locale (field.type.wrap part)).without path =
      field.hold locale (field.type.wrap part) := by
  obtain ⟨other, listed, ⟨secret, rfl⟩ | ⟨localized, foreign, among, rfl⟩ |
    ⟨next, goes, rest, deeper, rfl⟩⟩ := removable.cases
  · refine Field.without_hold_of_ne fun same => ?_
    cases apart.here field there other listed (.inr same)
    rw [shown] at secret
    cases secret
  · by_cases same : field.storageKey = other.storageKey
    · cases apart.here field there other listed (.inr same)
      have elsewhere : locale ≠ foreign := fun equal => fresh (equal ▸ among)
      simp [Document.without, Document.modify, Field.hold, localized, Value.mapDocuments,
        Document.erase, elsewhere]
    · exact Field.without_hold_of_ne same
  · by_cases same : field.storageKey = other.name
    · -- The field is not localized, so the path goes on in the documents under it.
      cases apart.here field there other listed (.inl same)
      have bare : field.localized = false :=
        Bool.eq_false_iff.2 fun localized => Field.storageKey_ne_name localized same
      rw [embedded] at goes
      cases goes
      have unchanged : (field.type.wrap part).mapDocuments (Document.without rest) =
          field.type.wrap part := by
        apply FieldType.mapDocuments_wrap
        rcases kept with localized | deep | kept
        · rw [bare] at localized
          cases localized
        · exact .inl deep
        · exact .inr (kept rest deeper)
      cases rest with
      | nil => exact absurd rfl deeper.ne_nil
      | cons key rest =>
        simp [Document.without_cons_cons, Document.modify, Field.hold, bare, same, unchanged]
    · exact Field.without_hold_of_ne same

/-- A schema with a blind spot has a shaped document that exposes something and that no removable
path touches. -/
theorem BlindSpot.exists_shown {others : List String} (blind : schema.BlindSpot)
    (apart : schema.Apart) (fresh : locale ∉ others) :
    ∃ field ∈ schema.fields, ∃ inner value, field.type.embeddedSchema? = some inner ∧
      field.type.Fits value ∧ schema.Exposes (field.hold locale value) ∧
      ∀ path, schema.Removable others path →
        (field.hold locale value).without path = field.hold locale value := by
  induction blind with
  | @here schema inner field there shown embedded hides spot =>
    obtain ⟨part, shaped, exposed⟩ := exists_exposed (apart.inside there embedded) hides
    refine ⟨field, there, inner, field.type.wrap part, embedded,
      FieldType.fits_wrap shaped embedded, ?_, fun path removable => ?_⟩
    · exact .inside there embedded (field.stores_hold _ _) (FieldType.holds_wrap part field.type)
        exposed
    · refine without_hold apart there shown fresh embedded ?_ removable
      exact spot.imp id .inl
  | @inside schema inner field there shown embedded _ ih =>
    have apartInside := apart.inside there embedded
    obtain ⟨under, listed, _, value, _, fits, exposed, kept⟩ := ih apartInside
    have shaped : inner.Shapes (under.hold locale value) := shapes_hold apartInside listed fits
    refine ⟨field, there, inner, field.type.wrap (under.hold locale value), embedded,
      FieldType.fits_wrap shaped embedded, ?_, fun path removable => ?_⟩
    · exact .inside there embedded (field.stores_hold _ _)
        (FieldType.holds_wrap (under.hold locale value) field.type) exposed
    · exact without_hold apart there shown fresh embedded (.inr (.inr kept)) removable

def identified (id : ObjectId) (document : Document) : Document :=
  (idKey, .objectId id) :: document

theorem get?_identified_of_ne {id : ObjectId} {document : Document} {key : String}
    (other : idKey ≠ key) : (identified id document).get? key = document.get? key := by
  simp [identified, Document.get?, other]

theorem shapes_identified {document : Document} (id : ObjectId) (apart : schema.Apart)
    (there : Field.identifier ∈ schema.fields) (shaped : schema.Shapes document) :
    schema.Shapes (identified id document) := by
  refine .intro (fun other listed localized => ?_) fun other listed found stored => ?_
  · have named : idKey ≠ other.name := fun same => by
      cases apart.here Field.identifier there other listed (.inl same)
      cases localized
    have kept : idKey ≠ other.storageKey := fun same => by
      cases apart.here Field.identifier there other listed (.inr same)
      cases localized
    rw [get?_identified_of_ne named, get?_identified_of_ne kept]
    exact shaped.framed other listed localized
  · cases stored with
    | plain bare stored =>
      by_cases same : idKey = other.name
      · cases apart.here Field.identifier there other listed (.inl same)
        cases stored
        exact .scalar rfl
      · rw [get?_identified_of_ne same] at stored
        exact shaped.fits other listed found (.plain bare stored)
    | variant localized stored chosen =>
      have kept : idKey ≠ other.storageKey := fun same => by
        cases apart.here Field.identifier there other listed (.inr same)
        cases localized
      rw [get?_identified_of_ne kept] at stored
      exact shaped.fits other listed found (.variant localized stored chosen)

theorem without_identified {others : List String} {document : Document} {path : Path}
    (id : ObjectId) (apart : schema.Apart) (there : Field.identifier ∈ schema.fields)
    (removable : schema.Removable others path) (kept : document.without path = document) :
    (identified id document).without path = identified id document := by
  -- The field of the identifier is neither hidden nor localized, and it embeds nothing.
  obtain ⟨other, listed,
    ⟨secret, rfl⟩ | ⟨localized, foreign, _, rfl⟩ | ⟨next, goes, rest, _, rfl⟩⟩ := removable.cases
  · rw [identified, Document.without_entry_of_ne, kept]
    intro same
    cases apart.here Field.identifier there other listed (.inr same)
    cases secret
  · rw [identified, Document.without_entry_of_ne, kept]
    intro same
    cases apart.here Field.identifier there other listed (.inr same)
    cases localized
  · rw [identified, Document.without_entry_of_ne, kept]
    intro same
    cases apart.here Field.identifier there other listed (.inl same)
    cases goes

/-- A registered schema with a blind spot has a shaped document with an identifier that exposes
something and that no removable path touches. -/
theorem BlindSpot.exists_document (blind : schema.BlindSpot) (locale : String)
    (others : List String) (apart : schema.Apart) (there : Field.identifier ∈ schema.fields)
    (fresh : locale ∉ others) (id : ObjectId) :
    ∃ document : Document, document.id? = some id ∧ schema.Shapes document ∧
      schema.Exposes document ∧
      ∀ path, schema.Removable others path → document.without path = document := by
  obtain ⟨field, listed, inner, value, embedded, fits, exposed, kept⟩ :=
    blind.exists_shown apart fresh
  refine ⟨identified id (field.hold locale value), rfl,
    shapes_identified id apart there (shapes_hold apart listed fits), ?_, ?_⟩
  · refine exposed.mono fun key found stored => ?_
    rw [get?_identified_of_ne]
    · exact stored
    · intro same
      obtain ⟨key, _⟩ := Field.get?_hold stored
      cases apart.here Field.identifier there field listed (.inr (same.trans key))
      cases embedded
  · exact fun path removable => without_identified id apart there removable (kept path removable)

end Schema

end DocumentQuery
