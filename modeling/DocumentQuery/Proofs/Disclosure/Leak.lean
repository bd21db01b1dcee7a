import DocumentQuery.Proofs.Disclosure.Exposure
import DocumentQuery.Proofs.Schema.Registered
import DocumentQuery.Proofs.Schema.Walk

/-! Leaks. A document leaks when something kept for administrators can be reached in it
by the names of fields, through embedded documents and through the places of
references. Population follows the same names, so putting documents that do not leak
in the places of identifiers brings no leak.
-/

set_option autoImplicit false

namespace DocumentQuery

/-- Something kept for administrators is reached from a document by the names of fields. -/
inductive Registry.Leaks (registry : Registry) : Schema → Document → Prop
  | own {schema : Schema} {document : Document} {field : Field} : field ∈ schema.fields →
      field.adminOnly = true → document.hasKey field.storageKey = true →
      Leaks registry schema document
  | further {schema next : Schema} {document part : Document} {name : String} {value : Value} :
      registry.governing? [name] schema = some next → document.get? name = some value →
      value.Holds part → Leaks registry next part → Leaks registry schema document

namespace Registry

/-- Without a blind spot, what is exposed can be reached by the names of fields. -/
theorem leaks_of_exposes (registry : Registry) {schema : Schema} {document : Document}
    (built : schema.Built) (sighted : ¬ schema.BlindSpot) (exposed : schema.Exposes document) :
    registry.Leaks schema document := by
  induction exposed with
  | own there hidden stored => exact .own there hidden stored
  | @inside schema inner document part field value there embedded stored held exposed ih =>
    cases hidden : field.adminOnly with
    | true =>
      apply Leaks.own there hidden
      cases stored with
      | plain bare found => simp [Document.hasKey, Field.storageKey, bare, found]
      | variant _ found _ => simp [Document.hasKey, found]
    | false =>
      cases stored with
      | variant localized _ _ =>
        exact absurd (.here there hidden embedded exposed.adminPaths_ne_nil (.inl localized))
          sighted
      | plain _ found =>
        have typed := Schema.fieldType?_of_mem built.nodup_names there
        refine .further (governing?_single.2 ⟨_, typed, .inl embedded⟩) found held (ih ?_ ?_)
        · exact built.inside there embedded
        · exact fun blind => sighted (.inside there hidden embedded blind)

theorem hides_of_not_leaks {registry : Registry} {schema : Schema} {document : Document}
    (built : registry.Built) (conceals : registry.Conceals) {name : String}
    (found : registry.get? name = some schema) (tight : ¬ registry.Leaks schema document) :
    registry.Hides schema document := by
  have exposed {name : String} {schema : Schema} {document : Document}
      (found : registry.get? name = some schema) (open_ : schema.Exposes document) :
      registry.Leaks schema document :=
    leaks_of_exposes registry (built.get? found).1 (conceals name schema found) open_
  refine ⟨fun open_ => tight (exposed found open_), ?_⟩
  intro target part origin inserted known open_
  apply tight
  clear found tight
  induction inserted with
  | here typed refers stored held =>
    exact .further (governing?_single.2 ⟨_, typed, .inr ⟨_, refers, known⟩⟩) stored held
      (exposed known open_)
  | further next stored held _ ih => exact .further next stored held (ih known open_)

end Registry

namespace Value

theorem holds_mapDocuments {change : Document → Document} {value : Value} {part : Document}
    (h : (value.mapDocuments change).Holds part) :
    value.Holds part ∨ ∃ inner, value.Holds inner ∧ part = change inner := by
  cases value with
  | document fields =>
    cases h
    exact .inr ⟨fields, .here, rfl⟩
  | array items =>
    cases h with
    | item there held =>
      obtain ⟨item, listed, rfl⟩ := List.mem_map.1 there
      cases item with
      | document fields =>
        cases held
        exact .inr ⟨fields, .item listed .here, rfl⟩
      | array items => exact .inl (.item listed held)
      | _ => cases held
  | _ => exact .inl h

theorem holds_resolve {referent? : ObjectId → Option Document} {locale : Option String} :
    ∀ {value : Value} {part : Document}, (value.resolve referent? locale).Holds part →
      value.Holds part ∨
        ∃ id referent, referent? id = some referent ∧ inserted locale referent = .document part
  | .objectId id, part, h => by
    rw [resolve] at h
    split at h
    · rename_i referent found
      refine .inr ⟨id, referent, found, ?_⟩
      unfold inserted at h ⊢
      cases h
      rfl
    · cases h
  | .array items, part, h => by
    rw [resolve, resolveItems_eq_map] at h
    cases h with
    | item there held =>
      obtain ⟨item, listed, rfl⟩ := List.mem_map.1 there
      rcases holds_resolve held with earlier | came
      · exact .inl (.item listed earlier)
      · exact .inr came
  | .document fields, part, h => .inl h
  | .null, _, h | .undefined, _, h | .minKey, _, h | .maxKey, _, h | .bool _, _, h
  | .int32 _, _, h | .int64 _, _, h | .double _, _, h | .string _, _, h | .date _, _, h
  | .sealed _, _, h => by cases h

end Value

namespace Registry

theorem leaks_modify {registry : Registry} {schema : Schema} {document : Document} {name : String}
    {change : Value → Value} (leak : registry.Leaks schema (document.modify name change))
    (step : ∀ next value part, registry.governing? [name] schema = some next →
      document.get? name = some value → (change value).Holds part → registry.Leaks next part →
      registry.Leaks schema document) : registry.Leaks schema document := by
  cases leak with
  | own there hidden stored =>
    apply Leaks.own there hidden
    rw [Document.hasKey, Document.get?_modify] at stored
    rw [Document.hasKey]
    split at stored
    · simpa using stored
    · exact stored
  | further next stored held leak =>
    rw [Document.get?_modify] at stored
    split at stored
    · rename_i same
      subst same
      obtain ⟨value, found, rfl⟩ := Option.map_eq_some_iff.1 stored
      exact step _ value _ next found held leak
    · exact .further next stored held leak

theorem leaks_of_inserted {registry : Registry} {schema : Schema} {document part : Document}
    {locale : Option String}
    (spared : ∀ field ∈ schema.fields, field.adminOnly = true → field.storageKey ≠ localeKey)
    (same : Value.inserted locale document = .document part)
    (leak : registry.Leaks schema part) : registry.Leaks schema document := by
  cases locale with
  | none =>
    cases same
    exact leak
  | some locale =>
    cases same
    cases leak with
    | own there hidden stored =>
      apply Leaks.own there hidden
      rw [Document.hasKey, Document.get?_set, if_neg (spared _ there hidden).symm] at stored
      exact stored
    | further next stored held leak =>
      rw [Document.get?_set] at stored
      split at stored
      · cases stored
        cases held
      · exact .further next stored held leak

theorem leaks_resolveAt {registry : Registry} {referent? : ObjectId → Option Document}
    {locale : Option String} {target : String} {path : Path} {schema : Schema}
    {document : Document}
    (tight : ∀ origin id referent part, registry.get? target = some origin →
      referent? id = some referent → Value.inserted locale referent = .document part →
      ¬ registry.Leaks origin part)
    (leads : Population.deepTarget? registry schema path = some target)
    (leak : registry.Leaks schema (document.resolveAt referent? locale path)) :
    registry.Leaks schema document := by
  induction path generalizing schema document with
  | nil => exact leak
  | cons name rest ih =>
    cases rest with
    | nil =>
      obtain ⟨type, typed, refers⟩ := deepTarget?_single.1 leads
      refine leaks_modify leak fun next value part governs found held leak => ?_
      rcases Value.holds_resolve held with earlier | ⟨id, referent, came, same⟩
      · exact .further governs found earlier leak
      · -- The type under the name is a reference, so what governs its place is the target.
        obtain ⟨again, typedAgain, embedded | ⟨other, refersAgain, known⟩⟩ :=
          governing?_single.1 governs
        · rw [typed] at typedAgain
          cases typedAgain
          rw [FieldType.embeddedSchema?_of_referenceTarget? refers] at embedded
          cases embedded
        · rw [typed] at typedAgain
          cases typedAgain
          rw [refers] at refersAgain
          cases refersAgain
          exact absurd leak (tight next id referent part known came same)
    | cons next rest =>
      obtain ⟨inner, governs, leads⟩ := deepTarget?_cons.1 leads
      refine leaks_modify leak fun governed value part governsAgain found held leak => ?_
      rw [governs] at governsAgain
      cases governsAgain
      rcases Value.holds_mapDocuments held with earlier | ⟨_, before, rfl⟩
      · exact .further governs found earlier leak
      · exact .further governs found before (ih leads leak)

end Registry

end DocumentQuery
