import DocumentQuery.Population.Request
import DocumentQuery.Proofs.Schema.Registered
import DocumentQuery.Proofs.Schema.Walk
import DocumentQuery.Proofs.Store.Contents

/-! References between collections. The builder of registries looks at the references of each schema
by itself, at any depth, and asks that their targets be registered. What is reached from a
registered schema by the names of fields, through embedded documents and across references, is then
registered or embedded in what is. So a walk ends early only at a field that leads nowhere, and
never at a collection that is missing.
-/

set_option autoImplicit false

namespace DocumentQuery

/-- A schema refers to a collection, in a field of its own or in one of an embedded schema. -/
inductive Schema.Refers : Schema → String → Prop
  | own {schema : Schema} {field : Field} {target : String} : field ∈ schema.fields →
      field.type.referenceTarget? = some target → Refers schema target
  | inside {schema inner : Schema} {field : Field} {target : String} : field ∈ schema.fields →
      field.type.embeddedSchema? = some inner → Refers inner target → Refers schema target

def FieldType.Refers (type : FieldType) (target : String) : Prop :=
  type.referenceTarget? = some target ∨
    ∃ inner, type.embeddedSchema? = some inner ∧ inner.Refers target

theorem Schema.refers_iff {schema : Schema} {target : String} :
    schema.Refers target ↔ ∃ field ∈ schema.fields, field.type.Refers target := by
  constructor
  · rintro (⟨listed, direct⟩ | ⟨listed, embedded, deeper⟩)
    · exact ⟨_, listed, .inl direct⟩
    · exact ⟨_, listed, .inr ⟨_, embedded, deeper⟩⟩
  · rintro ⟨field, listed, direct | ⟨inner, embedded, deeper⟩⟩
    · exact .own listed direct
    · exact .inside listed embedded deeper

mutual

theorem FieldType.mem_targets {target : String} : ∀ type : FieldType,
    target ∈ type.targets ↔ type.Refers target
  | .primitive _ => by
    simp [FieldType.targets, FieldType.Refers, FieldType.referenceTarget?,
      FieldType.embeddedSchema?, FieldType.element]
  | .reference name => by
    simp [FieldType.targets, FieldType.Refers, FieldType.referenceTarget?,
      FieldType.embeddedSchema?, FieldType.element, eq_comm (a := target)]
  | .embedded schema => by
    simp [FieldType.targets, FieldType.Refers, FieldType.referenceTarget?,
      FieldType.embeddedSchema?, FieldType.element, Schema.mem_targets schema]
  | .array inner => by
    rw [FieldType.targets]
    exact FieldType.mem_targets inner

/-- The targets that are collected from a schema are those that it refers to, at any depth. -/
theorem Schema.mem_targets {target : String} : ∀ schema : Schema,
    target ∈ schema.targets ↔ schema.Refers target
  | ⟨_, fields⟩ => by
    rw [Schema.targets, Schema.refers_iff]
    exact Field.mem_targets fields

theorem Field.mem_targets {target : String} : ∀ fields : List Field,
    target ∈ Field.targets fields ↔ ∃ field ∈ fields, field.type.Refers target
  | [] => by simp [Field.targets]
  | ⟨_, type, _, _⟩ :: rest => by
    simp [Field.targets, FieldType.mem_targets type, Field.mem_targets rest]

end

namespace Registry

section Build

variable {schemas : List Schema} {known registered : SortedMap String Schema}

theorem get?_insert_eq_none_iff {first : Schema} {name : String} :
    (known.insert first.name first).get? name = none ↔
      name ≠ first.name ∧ known.get? name = none := by
  by_cases same : name = first.name
  · simp [same, SortedMap.get?_insert_self]
  · simp [same, SortedMap.get?_insert_of_ne _ _ (Ne.symm same)]

theorem register_ok_iff :
    (∃ registered, register known schemas = .ok registered) ↔
      (schemas.map (·.name)).Nodup ∧ ∀ name ∈ schemas.map (·.name), known.get? name = none := by
  induction schemas generalizing known with
  | nil => simp [register]
  | cons first rest ih =>
    rw [register]
    cases held : known.get? first.name with
    | some schema => simp [SortedMap.contains, held]
    | none =>
      have fresh : known.contains first.name = false := by simp [SortedMap.contains, held]
      rw [fresh, if_neg Bool.false_ne_true, ih, List.map_cons, List.nodup_cons,
        List.forall_mem_cons]
      simp only [get?_insert_eq_none_iff, held, true_and]
      constructor
      · rintro ⟨distinct, clear⟩
        exact ⟨⟨fun again => (clear _ again).1 rfl, distinct⟩,
          fun name there => (clear name there).2⟩
      · rintro ⟨⟨other, distinct⟩, clear⟩
        exact ⟨distinct, fun name there => ⟨fun same => other (same ▸ there), clear name there⟩⟩

theorem mem_values_register {schema : Schema} (h : register .empty schemas = .ok registered) :
    schema ∈ registered.values ↔ schema ∈ schemas := by
  constructor
  · intro held
    obtain ⟨name, found⟩ := SortedMap.exists_get?_of_mem_values held
    exact ((get?_register_empty h).1 found).1
  · intro there
    exact SortedMap.mem_values_of_get? ((get?_register_empty h).2 ⟨there, rfl⟩)

theorem contains_register {name : String} (h : register .empty schemas = .ok registered) :
    registered.contains name = true ↔ name ∈ schemas.map (·.name) := by
  simp only [SortedMap.contains, Option.isSome_iff_exists, List.mem_map, get?_register_empty h]

theorem danglingReference?_eq_none_iff (h : register .empty schemas = .ok registered) :
    danglingReference? registered = none ↔
      ∀ schema ∈ schemas, ∀ target, schema.Refers target → target ∈ schemas.map (·.name) := by
  simp only [danglingReference?, List.findSome?_eq_none_iff, Option.map_eq_none_iff,
    List.find?_eq_none, Bool.not_eq_true', Bool.not_eq_false, mem_values_register h,
    contains_register h, Schema.mem_targets]

theorem not_refers_journal {collection target : String} :
    ¬ (Schema.journal collection).Refers target := by
  rw [← Schema.mem_targets]
  exact List.not_mem_nil

/-- A registry can be built from schemas whose names are distinct from each other and the journal's
and which refer to none but these. -/
theorem build_ok_iff {journal : String} :
    (∃ registry, build schemas journal = .ok registry) ↔
      (schemas.map (·.name) ++ [journal]).Nodup ∧
        ∀ schema ∈ schemas, ∀ target, schema.Refers target →
          target ∈ schemas.map (·.name) ++ [journal] := by
  have names : (schemas ++ [Schema.journal journal]).map (·.name) =
      schemas.map (·.name) ++ [journal] := by
    rw [List.map_append]
    rfl
  have own : (∀ schema ∈ schemas ++ [Schema.journal journal], ∀ target, schema.Refers target →
        target ∈ schemas.map (·.name) ++ [journal]) ↔
      ∀ schema ∈ schemas, ∀ target, schema.Refers target →
        target ∈ schemas.map (·.name) ++ [journal] := by
    simp only [List.forall_mem_append, List.forall_mem_singleton, not_refers_journal]
    simp only [false_implies, implies_true, and_true]
  rw [← own, ← names]
  constructor
  · rintro ⟨registry, built⟩
    obtain ⟨registered, closed⟩ := build_eq_ok_iff.1 built
    obtain ⟨distinct, _⟩ := register_ok_iff.1 ⟨_, registered⟩
    exact ⟨distinct, (danglingReference?_eq_none_iff registered).1 closed⟩
  · rintro ⟨distinct, closed⟩
    obtain ⟨known, registered⟩ :=
      register_ok_iff.2 ⟨distinct, fun name _ => SortedMap.get?_empty name⟩
    have settled := (danglingReference?_eq_none_iff registered).2 closed
    exact ⟨⟨known⟩, build_eq_ok_iff.2 ⟨registered, settled⟩⟩

end Build

/-- What a schema refers to is registered. -/
def Covers (registry : Registry) (schema : Schema) : Prop :=
  ∀ target, schema.Refers target → ∃ next, registry.get? target = some next

def Closed (registry : Registry) : Prop :=
  ∀ name schema, registry.get? name = some schema → registry.Covers schema

theorem closed_of_build {registry : Registry} {schemas : List Schema} {journal : String}
    (built : build schemas journal = .ok registry) : registry.Closed := by
  obtain ⟨registered, closed⟩ := build_eq_ok_iff.1 built
  intro name schema found target refers
  have there := ((get?_register_empty registered).1 found).1
  have listed := (danglingReference?_eq_none_iff registered).1 closed schema there target refers
  exact Option.isSome_iff_exists.1 ((contains_register registered).2 listed)

section Covered

variable {registry : Registry} {root schema last : Schema} {name target : String}
  {type : FieldType} {path : Path}

theorem Covers.across (covers : registry.Covers schema)
    (typed : schema.fieldType? name = some type) (refers : type.referenceTarget? = some target) :
    ∃ next, registry.get? target = some next := by
  obtain ⟨field, there, _, rfl⟩ := Schema.fieldType?_eq typed
  exact covers target (.own there refers)

theorem Covers.inside {inner : Schema} (covers : registry.Covers schema)
    (typed : schema.fieldType? name = some type) (embedded : type.embeddedSchema? = some inner) :
    registry.Covers inner := by
  obtain ⟨field, there, _, rfl⟩ := Schema.fieldType?_eq typed
  exact fun target refers => covers target (.inside there embedded refers)

theorem Covers.walk (closed : registry.Closed) (covers : registry.Covers schema)
    (walk : registry.Walk schema path last) : registry.Covers last := by
  induction walk with
  | here schema => exact covers
  | inside typed embedded _ ih => exact ih (covers.inside typed embedded)
  | across _ _ found _ ih => exact ih (closed _ _ found)

theorem governing?_single_eq_none_iff (covers : registry.Covers schema) :
    registry.governing? [name] schema = none ↔ schema.Ends name := by
  rw [Option.eq_none_iff_forall_ne_some]
  constructor
  · intro stopped
    cases typed : schema.fieldType? name with
    | none => exact .inl typed
    | some type =>
      rcases type.kinds with ⟨scalar, plain⟩ | ⟨target, refers⟩ | ⟨inner, embedded⟩
      · exact .inr ⟨type, scalar, typed, plain⟩
      · obtain ⟨next, found⟩ := covers.across typed refers
        have goes := governing?_single.2 ⟨type, typed, .inr ⟨target, refers, found⟩⟩
        exact absurd goes (stopped next)
      · exact absurd (governing?_single.2 ⟨type, typed, .inl embedded⟩) (stopped inner)
  · intro ended next governs
    obtain ⟨type, typed, leads⟩ := governing?_single.1 governs
    rcases ended with undeclared | ⟨type', scalar, typed', plain⟩
    · rw [typed] at undeclared
      cases undeclared
    · rw [typed] at typed'
      cases typed'
      obtain ⟨free, flat⟩ := FieldType.leads_nowhere plain
      simp [free, flat] at leads

/-- A walk fails at a name that ends it, and nowhere else. -/
theorem governing?_eq_none_iff (closed : registry.Closed) (covers : registry.Covers root) :
    registry.governing? path root = none ↔
      ∃ before name after reached, path = before ++ name :: after ∧
        registry.Walk root before reached ∧ reached.Ends name := by
  constructor
  · intro stopped
    induction path generalizing root with
    | nil =>
      rw [governing?_nil] at stopped
      cases stopped
    | cons name rest ih =>
      rw [governing?_cons] at stopped
      cases step : registry.governing? [name] root with
      | none =>
        exact ⟨[], name, rest, root, rfl, .here root, (governing?_single_eq_none_iff covers).1 step⟩
      | some next =>
        rw [step, Option.bind_some] at stopped
        have covered := covers.walk closed (governing?_eq_some_iff.1 step)
        obtain ⟨before, last, after, reached, rfl, walk, ended⟩ := ih covered stopped
        refine ⟨name :: before, last, after, reached, rfl, ?_, ended⟩
        rw [← governing?_eq_some_iff, governing?_cons, step]
        exact governing?_eq_some_iff.2 walk
  · rintro ⟨before, name, after, reached, rfl, walk, ended⟩
    have stopped := (governing?_single_eq_none_iff (covers.walk closed walk)).2 ended
    rw [governing?_append, governing?_eq_some_iff.2 walk, Option.bind_some, governing?_cons,
      stopped, Option.bind_none]

theorem Covers.deepTarget? (closed : registry.Closed) (covers : registry.Covers root)
    (leads : Population.deepTarget? registry root path = some target) :
    ∃ next, registry.get? target = some next := by
  simp only [Population.deepTarget?, Option.bind_eq_bind, Option.bind_eq_some_iff] at leads
  obtain ⟨schema, governs, name, _, type, typed, refers⟩ := leads
  exact (covers.walk closed (governing?_eq_some_iff.1 governs)).across typed refers

theorem deepTarget?_of_directive {supported : List String} {locale : String}
    {parameters : Parameters} {directive : Directive}
    (there : directive ∈ Population.directives registry supported locale root parameters)
    (known : directive.target = some target) :
    ∃ path, Population.deepTarget? registry root path = some target := by
  obtain ⟨path, _, rfl⟩ := List.mem_map.1 there
  rw [Population.directive] at known
  split at known
  · cases known
  · rename_i found refers
    cases known
    obtain ⟨type, typed, refers⟩ := Option.bind_eq_some_iff.1 refers
    exact ⟨_, deepTarget?_of_typeAt? registry typed refers⟩

end Covered

/-- A registry is built exactly when the names of its collections, that of the journal included, are
distinct and all that is referred to, at any depth, is among them. From its collections a walk then
fails at a name that is not declared or has scalars, and at no other: each reference that it meets
goes to a registered collection, and so do those that clients ask to expand. -/
theorem closed_under_references (schemas : List Schema) (journal : String) :
    ((∃ registry, build schemas journal = .ok registry) ↔
      (schemas.map (·.name) ++ [journal]).Nodup ∧
        ∀ schema ∈ schemas, ∀ target, schema.Refers target →
          target ∈ schemas.map (·.name) ++ [journal]) ∧
    ∀ registry, build schemas journal = .ok registry →
      ∀ collection root, registry.get? collection = some root →
        (∀ path, registry.governing? path root = none ↔
          ∃ before name after reached, path = before ++ name :: after ∧
            registry.Walk root before reached ∧ reached.Ends name) ∧
        (∀ before reached name type target, registry.Walk root before reached →
          reached.fieldType? name = some type → type.referenceTarget? = some target →
          ∃ next, registry.get? target = some next) ∧
        (∀ supported locale parameters directive target,
          directive ∈ Population.directives registry supported locale root parameters →
          directive.target = some target → ∃ next, registry.get? target = some next) ∧
        ∀ path target, Population.deepTarget? registry root path = some target →
          ∃ next, registry.get? target = some next := by
  refine ⟨build_ok_iff, fun registry built collection root found => ?_⟩
  have closed := closed_of_build built
  have covers := closed collection root found
  refine ⟨fun path => governing?_eq_none_iff closed covers, ?met, ?directives, ?deep⟩
  case met =>
    intro before reached name type target walk typed refers
    exact (covers.walk closed walk).across typed refers
  case directives =>
    intro supported locale parameters directive target there known
    obtain ⟨path, leads⟩ := deepTarget?_of_directive there known
    exact covers.deepTarget? closed leads
  case deep => exact fun path target leads => covers.deepTarget? closed leads

def threads : Schema :=
  ⟨"thread", [.plain "comments" (.array (.embedded ⟨"comment",
    [.plain "author" (.reference "member")]⟩))]⟩

def forumMembers : Schema :=
  ⟨"member", [.plain "friends" (.array (.reference "member")),
    .plain "opened" (.reference "thread"), .plain "name" (.primitive .string)]⟩

def forum : Registry :=
  ⟨.ofPairs [("thread", threads), ("member", forumMembers), ("journal", .journal "journal")]⟩

/-- Threads are not registered without members. Together they lead to each other in a circle, up to
a member's name, and what lies below this name is not reached. -/
theorem closed_under_references_forum :
    (¬ ∃ registry, build [threads] "journal" = .ok registry) ∧
      build [threads, forumMembers] "journal" = .ok forum ∧
      forum.governing?
        ["comments", "author", "friends", "opened", "comments", "author", "name", "x"]
        threads = none ∧
      ∃ next, forum.get? "member" = some next := by
  obtain ⟨alone, _⟩ := closed_under_references [threads] "journal"
  obtain ⟨_, together⟩ := closed_under_references [threads, forumMembers] "journal"
  have built : build [threads, forumMembers] "journal" = .ok forum := by rfl
  have found : forum.get? "thread" = some threads := by rfl
  obtain ⟨stops, _, _, deep⟩ := together forum built "thread" threads found
  refine ⟨fun registered => ?_, built, ?_, ?_⟩
  · have refers : threads.Refers "member" :=
      .inside List.mem_cons_self rfl (.own List.mem_cons_self rfl)
    exact absurd ((alone.1 registered).2 threads List.mem_cons_self "member" refers) (by decide)
  · have circle : forum.Walk threads
        ["comments", "author", "friends", "opened", "comments", "author"] forumMembers :=
      governing?_eq_some_iff.1 (by rfl)
    exact (stops _).2 ⟨_, "name", ["x"], forumMembers, rfl, circle, .inr ⟨_, .string, rfl, rfl⟩⟩
  · exact deep ["comments", "author", "friends"] "member" (by rfl)

end Registry

end DocumentQuery
