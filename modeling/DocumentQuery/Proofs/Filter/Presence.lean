import DocumentQuery.Proofs.Document.Removal
import DocumentQuery.Proofs.Filter.Conjunction
import DocumentQuery.Proofs.Filter.Rendered

/-! Filters of presence. Whatever a parameter asks of a field, its clause is on the name of the
field. A test of presence by it accepts the documents with a key of that name. Localized fields are
stored under another key, so that the documents which store one are taken for those which do not.
-/

set_option autoImplicit false

namespace DocumentQuery

theorem Document.isEmpty_candidates {field : String} (dotless : '.' ∉ field.toList)
    (document : Document) : (document.candidates field).isEmpty = ! document.hasKey field := by
  rw [candidates, Path.ofText_single dotless, valuesAt_cons, hasKey]
  cases document.get? field with
  | none => rfl
  | some value => cases value <;> rfl

theorem Expr.holds_exist {field : String} (dotless : '.' ∉ field.toList) (present : Bool)
    (document : Document) :
    (exist field present).holds document = (document.hasKey field == present) := by
  rw [holds, verdict, Document.isEmpty_candidates dotless]
  cases document.hasKey field <;> cases present <;> rfl

/-- The documents that store a field are those with a key of its name exactly when the field is not
localized. -/
theorem Field.hasKey_storageKey_iff {field : Field} :
    (∀ document : Document, document.hasKey field.name = document.hasKey field.storageKey) ↔
      field.localized = false := by
  constructor
  · intro same
    refine Bool.eq_false_iff.2 fun localized => ?_
    have alone := same [(field.storageKey, .null)]
    simp [Document.hasKey, Document.get?, storageKey_ne_name localized] at alone
  · intro bare document
    rw [storageKey, bare]
    rfl

theorem Schema.exists_fieldType? {schema : Schema} {field : Field}
    (declared : field ∈ schema.fields) : ∃ type, schema.fieldType? field.name = some type := by
  have found : (schema.field? field.name).isSome = true :=
    List.find?_isSome.2 ⟨field, declared, beq_self_eq_true field.name⟩
  rw [fieldType?, ← Option.isSome_iff_exists, Option.isSome_map]
  exact found

namespace Filter

section Parameters

variable {primaryKey : String} {schema : Schema} {field : String} {combinator : Combinator}

theorem compile_parameterName (addressable : Addressable field) (text : String) :
    compile primaryKey schema [(parameterName combinator field, text)] =
      (operand text (schema.fieldType? field)).map
        fun asked => [⟨field, combinator, asked.1, asked.2⟩] := by
  have stored : storedName primaryKey field = field := if_neg addressable.stored
  have clause : compileClause primaryKey schema (signOf combinator ++ field) text =
      (operand text (schema.fieldType? field)).map
        fun asked => some ⟨field, combinator, asked.1, asked.2⟩ := by
    rw [compileClause, combinator_sign addressable]
    cases named : field.toList with
    | nil => exact absurd (String.toList_eq_nil_iff.1 named) addressable.nonempty
    | cons c rest =>
      have name : String.ofList (c :: rest) = field := by rw [← named, String.ofList_toList]
      simp only [name, stored]
      cases operand text (schema.fieldType? field) <;> rfl
  rw [compile_cons, compileOne, fieldOf?_parameterName addressable]
  simp only [clause]
  cases operand text (schema.fieldType? field) <;> rfl

theorem compile_presence {text : String} {operator : Operator} {value : Value} {present : Bool}
    (addressable : Addressable field)
    (asked : operand text (schema.fieldType? field) = .ok (operator, value))
    (meant : Clause.expr ⟨field, combinator, operator, value⟩ = .exist field present) :
    ∃ clause, compile primaryKey schema [(parameterName combinator field, text)] = .ok [clause] ∧
      ∀ document, accepts (joined [clause]) document = (document.hasKey field == present) := by
  refine ⟨⟨field, combinator, operator, value⟩, ?_, fun document => ?_⟩
  · rw [compile_parameterName addressable, asked]
    rfl
  · have readable : Expr.Readable (Clause.expr ⟨field, combinator, operator, value⟩) := by
      rw [meant]
      exact .exist
    rw [accepts_joined_singleton readable, meant, Expr.holds_exist addressable.dotless]

end Parameters

/-- The filters for the presence and for the absence of a declared field look for its name. They
tell the documents that store the field from the others exactly when it is not localized. -/
theorem presence_exactly {schema : Schema} {field : Field} (declared : field ∈ schema.fields)
    (addressable : Addressable field.name) (primaryKey : String) (combinator : Combinator) :
    ∃ present absent,
      compile primaryKey schema [(parameterName combinator field.name, "*")] = .ok [present] ∧
      compile primaryKey schema [(parameterName combinator field.name, "*!")] = .ok [absent] ∧
      (∀ document, accepts (joined [present]) document = document.hasKey field.name ∧
        accepts (joined [absent]) document = ! document.hasKey field.name) ∧
      ((∀ document, accepts (joined [present]) document = document.hasKey field.storageKey) ↔
        field.localized = false) ∧
      ((∀ document, accepts (joined [absent]) document = ! document.hasKey field.storageKey) ↔
        field.localized = false) := by
  -- The type may be that of another field of the name: presence is asked of all types alike.
  obtain ⟨type, typed⟩ := Schema.exists_fieldType? declared
  have asks : operand "*" (schema.fieldType? field.name) = .ok (.exist, .bool true) := by
    rw [typed]
    exact operand_of_presence (.inl ⟨rfl, rfl, rfl⟩)
  have asks' : operand "*!" (schema.fieldType? field.name) = .ok (.notExist, .bool false) := by
    rw [typed]
    exact operand_of_presence (.inr ⟨rfl, rfl, rfl⟩)
  obtain ⟨present, compiled, accepted⟩ :=
    @compile_presence primaryKey schema field.name combinator _ _ _ _ addressable asks rfl
  obtain ⟨absent, compiled', accepted'⟩ :=
    @compile_presence primaryKey schema field.name combinator _ _ _ _ addressable asks' rfl
  simp only [beq_true] at accepted
  simp only [beq_false] at accepted'
  refine ⟨present, absent, compiled, compiled',
    fun document => ⟨accepted document, accepted' document⟩, ?_, ?_⟩
  · simp only [accepted, Field.hasKey_storageKey_iff]
  · simp only [accepted', Bool.not_inj_iff, Field.hasKey_storageKey_iff]

def translatedTitle : Field :=
  ⟨"title", .primitive .string, true, false⟩

def articles : Schema :=
  ⟨"article", [.plain idKey (.primitive .objectId), translatedTitle]⟩

/-- Both filters compile for a title, and neither knows the documents that store one. -/
theorem presence_exactly_articles : translatedTitle ∈ articles.fields ∧
    Addressable translatedTitle.name ∧
    ∃ present absent,
      compile idKey articles [("filter[title]", "*")] = .ok [present] ∧
      compile idKey articles [("filter[title]", "*!")] = .ok [absent] ∧
      (∀ document, accepts (joined [present]) document = document.hasKey "title" ∧
        accepts (joined [absent]) document = ! document.hasKey "title") ∧
      ((∀ document, accepts (joined [present]) document = document.hasKey "titleI18n") ↔
        true = false) ∧
      ((∀ document, accepts (joined [absent]) document = ! document.hasKey "titleI18n") ↔
        true = false) := by
  have declared : translatedTitle ∈ articles.fields := List.mem_cons_of_mem _ List.mem_cons_self
  have addressable : Addressable translatedTitle.name := by
    refine ⟨by decide, by decide, by decide, by decide, ?_⟩
    intro c first
    cases first
    decide
  have name : parameterName .independent translatedTitle.name = "filter[title]" := by
    decide +kernel
  have key : translatedTitle.storageKey = "titleI18n" := by decide +kernel
  have found := presence_exactly declared addressable idKey .independent
  rw [name, key] at found
  exact ⟨declared, addressable, found⟩

/-- An article with a title is not found by its title, but among those without one. -/
theorem presence_misses_title :
    Schema.build "article" [translatedTitle] = .ok articles ∧
      Document.hasKey [("titleI18n", .document [("en", .string "The Sea")])]
        translatedTitle.storageKey = true ∧
      ((compile idKey articles [("filter[title]", "*")]).map fun clauses =>
        accepts (joined clauses) [("titleI18n", .document [("en", .string "The Sea")])]) =
          .ok false ∧
      ((compile idKey articles [("filter[title]", "*!")]).map fun clauses =>
        accepts (joined clauses) [("titleI18n", .document [("en", .string "The Sea")])]) =
          .ok true := by
  refine ⟨by rfl, by decide +kernel, ok_of_toOption (by decide +kernel),
    ok_of_toOption (by decide +kernel)⟩

end Filter

end DocumentQuery
