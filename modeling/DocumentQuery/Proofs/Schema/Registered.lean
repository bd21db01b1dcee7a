import DocumentQuery.Proofs.Schema.Structure

/-! Registered schemas. A built registry holds built schemas, each under its own name,
and its journal among them.
-/

set_option autoImplicit false

namespace DocumentQuery.Registry

section Registration

variable {known registered : SortedMap String Schema} {schemas : List Schema} {name : String}
  {schema first : Schema}

theorem get?_insert_eq_some_iff (fresh : known.get? first.name = none) :
    (known.insert first.name first).get? name = some schema ↔
      known.get? name = some schema ∨ (schema = first ∧ schema.name = name) := by
  by_cases same : first.name = name
  · subst same
    rw [SortedMap.get?_insert_self, fresh, Option.some.injEq]
    constructor
    · rintro rfl
      exact .inr ⟨rfl, rfl⟩
    · rintro (impossible | ⟨rfl, -⟩)
      · cases impossible
      · rfl
  · rw [SortedMap.get?_insert_of_ne _ _ same, or_iff_left]
    rintro ⟨rfl, named⟩
    exact same named

theorem get?_register (h : register known schemas = .ok registered) :
    registered.get? name = some schema ↔
      known.get? name = some schema ∨ (schema ∈ schemas ∧ schema.name = name) := by
  induction schemas generalizing known with
  | nil =>
    cases h
    simp
  | cons first rest ih =>
    rw [register] at h
    split at h
    · cases h
    · rename_i taken
      have fresh : known.get? first.name = none := by simpa [SortedMap.contains] using taken
      rw [ih h, get?_insert_eq_some_iff fresh, List.mem_cons, or_and_right, or_assoc]

theorem get?_register_empty (h : register .empty schemas = .ok registered) :
    registered.get? name = some schema ↔ schema ∈ schemas ∧ schema.name = name := by
  simp [get?_register h]

end Registration

theorem built_journal (collection : String) : (Schema.journal collection).Built := by
  refine .intro ⟨_, _, build_journal collection⟩ ?_
  intro field there inner embedded
  simp only [Schema.journal, List.mem_cons, List.not_mem_nil, or_false] at there
  rcases there with rfl | rfl | rfl <;> simp [Field.plain, FieldType.embeddedSchema?,
    FieldType.element] at embedded

/-- A registry is built from schemas that can be registered and refer to nothing else. -/
theorem build_eq_ok_iff {registry : Registry} {schemas : List Schema} {journal : String} :
    build schemas journal = .ok registry ↔
      register .empty (schemas ++ [.journal journal]) = .ok registry.schemas ∧
        danglingReference? registry.schemas = none := by
  rw [build]
  cases register .empty (schemas ++ [.journal journal]) with
  | error error => simp [bind, Except.bind]
  | ok known =>
    obtain ⟨held⟩ := registry
    simp only [bind, Except.bind, Except.ok.injEq]
    cases dangling : danglingReference? known with
    | none =>
      simp only [Except.ok.injEq, Registry.mk.injEq]
      exact ⟨fun same => ⟨same, same ▸ dangling⟩, And.left⟩
    | some error =>
      refine iff_of_false (fun refused => by cases refused) ?_
      rintro ⟨rfl, closed⟩
      rw [closed] at dangling
      cases dangling

theorem get?_build {registry : Registry} {schemas : List Schema} {journal name : String}
    {schema : Schema} (built : build schemas journal = .ok registry)
    (found : registry.get? name = some schema) :
    (schema ∈ schemas ∨ schema = .journal journal) ∧ schema.name = name := by
  obtain ⟨there, named⟩ := (get?_register_empty (build_eq_ok_iff.1 built).1).1 found
  exact ⟨by simpa using there, named⟩

theorem Built.get? {registry : Registry} {name : String} {schema : Schema} (h : registry.Built)
    (found : registry.get? name = some schema) : schema.Built ∧ schema.name = name := by
  obtain ⟨schemas, journal, each, built⟩ := h
  obtain ⟨there | rfl, named⟩ := get?_build built found
  · exact ⟨each schema there, named⟩
  · exact ⟨built_journal journal, named⟩

theorem dotless_journal (collection : String) : (Schema.journal collection).Dotless := by
  constructor
  · simp only [Schema.journal, List.mem_cons, List.not_mem_nil, or_false]
    rintro field (rfl | rfl | rfl) <;> decide
  · simp [Schema.journal, Field.plain, FieldType.embeddedSchema?, FieldType.element]

theorem dotless_of_build {registry : Registry} {schemas : List Schema} {journal : String}
    (built : build schemas journal = .ok registry) (each : ∀ schema ∈ schemas, schema.Dotless) :
    registry.Dotless := by
  intro name schema found
  obtain ⟨there | rfl, _⟩ := get?_build built found
  · exact each schema there
  · exact dotless_journal journal

theorem schema_ok {registry : Registry} {name : String} {schema : Schema} :
    registry.schema name = .ok schema ↔ registry.get? name = some schema := by
  rw [Registry.schema]
  cases registry.get? name <;> simp

def bare : Registry :=
  ⟨⟨[(defaultJournal, .journal defaultJournal)], by decide⟩⟩

end DocumentQuery.Registry
