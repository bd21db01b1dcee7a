import DocumentQuery.Proofs.Disclosure.Population
import DocumentQuery.Proofs.Service.Requests
import DocumentQuery.Proofs.Store.Alike
import DocumentQuery.Proofs.Store.Operations

/-! Influence of what is kept for administrators. A request without privileges is answered
alike by two stores that differ only in a hidden field, unless a query of its plan reads the
field: neither filters nor sort keys are checked against what the caller may see.
-/

set_option autoImplicit false

namespace DocumentQuery

/-- A query that a plan makes on a collection reads a key there: its own query, or that of the
entries in the journal. -/
def Plan.Reads (plan : Plan) (journal collection key : String) : Prop :=
  (plan.collection = collection ∧ plan.query.Reads key) ∨
    ∃ sync ∈ plan.sync, journal = collection ∧
      (Journal.since sync.collection sync.since).Reads key

instance (plan : Plan) (journal collection key : String) :
    Decidable (plan.Reads journal collection key) :=
  inferInstanceAs (Decidable (_ ∨ ∃ sync ∈ plan.sync, _ ∧ _))

section Population

variable {registry : Registry} {first second : Store}

def Store.ServesAlike (first second : Store) (target : String) (projection : Option Projection) :
    Prop :=
  ∀ ids, first.get target ids projection = second.get target ids projection

namespace Population

theorem referentsIn_alike {target : String} {projection : Option Projection}
    (served : first.ServesAlike second target projection) (documents : List Document)
    (path : Path) :
    referentsIn first documents path target projection =
      referentsIn second documents path target projection := by
  rw [referentsIn, served, referentsIn]

theorem expandAll_alike {directives : List Directive}
    (served : ∀ directive ∈ directives, ∀ target, directive.target = some target →
      first.ServesAlike second target directive.projection) (documents : List Document) :
    ∃ expanded,
      (expandAll Store.backend documents directives).on first = (.ok expanded, first) ∧
      (expandAll Store.backend documents directives).on second = (.ok expanded, second) := by
  induction directives generalizing documents with
  | nil => exact ⟨documents, rfl, rfl⟩
  | cons directive rest ih =>
    obtain ⟨here, others⟩ := List.forall_mem_cons.1 served
    rw [expandAll]
    cases known : directive.target with
    | none => exact ih others documents
    | some target =>
      simp only [Action.on_bind, expand_on, referentsIn_alike (here target known)]
      exact ih others _

theorem expandPath_alike
    (served : ∀ target, first.ServesAlike second target (deepSelection registry target))
    (root : Schema) (locale : String) (set : DocumentSet) (path : Path) :
    ∃ expanded,
      (expandPath Store.backend registry root locale set path).on first = (.ok expanded, first) ∧
      (expandPath Store.backend registry root locale set path).on second =
        (.ok expanded, second) := by
  rw [expandPath]
  split
  · split
    · exact ⟨set, rfl, rfl⟩
    · rename_i target _
      simp only [Action.on_bind, fetch_on, referentsIn_alike (served target)]
      exact ⟨_, rfl, rfl⟩
  · exact ⟨set, rfl, rfl⟩

theorem expandPaths_alike
    (served : ∀ target, first.ServesAlike second target (deepSelection registry target))
    (root : Schema) (locale : String) (paths : List String) (set : DocumentSet) :
    ∃ expanded,
      (expandPaths Store.backend registry root locale paths set).run first =
        ({ documents := expanded }, first) ∧
      (expandPaths Store.backend registry root locale paths set).run second =
        ({ documents := expanded }, second) := by
  induction paths generalizing set with
  | nil => exact ⟨set, rfl, rfl⟩
  | cons path rest ih =>
    obtain ⟨between, step, step'⟩ := expandPath_alike served root locale set (Path.ofText path)
    rw [run_expandPaths_of_ok rest step, run_expandPaths_of_ok rest step']
    exact ih between

end Population

namespace Plan

variable {plan : Plan} {root : Schema}

theorem expandDeep_alike (known : registry.get? plan.collection = some root)
    (served : ∀ target,
      first.ServesAlike second target (Population.deepSelection registry target))
    (set : DocumentSet) :
    ∃ expanded, (plan.expandDeep Store.backend registry set).on first = (.ok expanded, first) ∧
      (plan.expandDeep Store.backend registry set).on second = (.ok expanded, second) := by
  rcases expandDeep_cases known Store.backend set with same | same
  · rw [same]
    exact ⟨set, rfl, rfl⟩
  · obtain ⟨expanded, run, run'⟩ := Population.expandPaths_alike served root plan.locale
      plan.deepPaths set
    rw [same, same, run, run']
    exact ⟨expanded, rfl, rfl⟩

/-- The assembly of one result from two stores comes to lists that correspond, as far as the entries
that the stores hold for the request do. -/
theorem assemble_corresponds {related : Document → Document → Prop}
    (reflexive : ∀ document, related document document)
    (known : registry.get? plan.collection = some root)
    (served : ∀ target,
      first.ServesAlike second target (Population.deepSelection registry target))
    (settings : Settings)
    (entries : ∀ sync, plan.sync = some sync → Corresponds (List.Forall₂ related)
      (first.query settings.journalCollection (Journal.since sync.collection sync.since))
      (second.query settings.journalCollection (Journal.since sync.collection sync.since)))
    (set : DocumentSet) :
    Corresponds (fun a b => List.Forall₂ related a.toList b.toList)
      ((plan.assemble Store.backend registry settings set).on first).1
      ((plan.assemble Store.backend registry settings set).on second).1 := by
  have same (set : DocumentSet) : List.Forall₂ related set.toList set.toList :=
    List.forall₂_same.2 fun document _ => reflexive document
  rw [assemble]
  split
  · exact .ok (same set)
  · obtain ⟨expanded, run, run'⟩ := expandDeep_alike known served set
    simp only [Action.on_bind, run, run']
    cases expanded with
    | one document => exact .ok (same (.one document))
    | many documents =>
      rw [addDeleted]
      cases synced : plan.sync with
      | none => exact .ok (same (.many documents))
      | some sync =>
        simp only [Action.on_map]
        refine (entries sync synced).map fun deleted deleted' correspond => ?_
        exact List.rel_append (same (.many documents)) correspond

end Plan

end Population

namespace Service

variable {registry : Registry} {settings : Settings} {first second : Store}

theorem answer_corresponds {schema : Schema} {plan : Plan} {related : Document → Document → Prop}
    (reflexive : ∀ document, related document document)
    (known : registry.get? plan.collection = some schema)
    (queried : first.query schema.name plan.query = second.query schema.name plan.query)
    (served : ∀ directive ∈ plan.query.populate, ∀ target, directive.target = some target →
      first.ServesAlike second target directive.projection)
    (served' : ∀ target,
      first.ServesAlike second target (Population.deepSelection registry target))
    (entries : ∀ sync, plan.sync = some sync → Corresponds (List.Forall₂ related)
      (first.query settings.journalCollection (Journal.since sync.collection sync.since))
      (second.query settings.journalCollection (Journal.since sync.collection sync.since))) :
    let service : Service Store := ⟨Store.backend, registry, settings⟩
    Corresponds (List.Forall₂ related) ((service.answer schema plan).on first).1
      ((service.answer schema plan).on second).1 := by
  intro service
  rw [answer, Action.on_bind, Collection.exec_on, Action.on_bind, Collection.exec_on, queried]
  cases second.query schema.name plan.query with
  | error error => exact .error error
  | ok documents =>
    obtain ⟨expanded, run, run'⟩ := Population.expandAll_alike served documents
    simp only [run, run', Action.on_map]
    exact (Plan.assemble_corresponds reflexive known served' settings entries
      (.many expanded)).map fun _ _ correspond => correspond

/-- What stands in the place of the identifier in the documents of an answer, in their order. -/
def identifiers (answer : Except AccessError (List Document)) :
    Except AccessError (List (Option Value)) :=
  answer.map (List.map (·.get? idKey))

theorem identifiers_eq_of_twins {key : String} {answer other : Except AccessError (List Document)}
    (twins : Corresponds (List.Forall₂ (Document.Twins key)) answer other) :
    identifiers answer = identifiers other := by
  refine (twins.map fun documents others pairs => ?_).eq
  have one : List.Forall₂ Eq (documents.map (·.get? idKey)) (others.map (·.get? idKey)) := by
    rw [List.forall₂_map_left_iff, List.forall₂_map_right_iff]
    exact pairs.imp fun _ _ pair => pair.2
  rwa [List.forall₂_eq_eq_eq] at one

end Service

/-- Two states of a store that differ only in what they hold in a field of one collection, which is
kept for administrators. -/
structure SecretVariation (registry : Registry) (collection : String) (field : Field)
    (first second : Store) : Prop where
  built : registry.Built
  declared : ∃ schema, registry.get? collection = some schema ∧ field ∈ schema.fields
  hidden : field.adminOnly = true
  reachable : first.Reachable
  reachable' : second.Reachable
  alike : Store.AlikeBut collection field.storageKey first second

namespace SecretVariation

variable {registry : Registry} {collection target : String} {field : Field} {first second : Store}
  {projection : Option Projection}

theorem applyTo_erase (varies : SecretVariation registry collection field first second)
    (dotless : '.' ∉ field.name.toList) (protects : registry.Protects collection projection)
    (document : Document) :
    Projection.applyTo projection (document.erase field.storageKey) =
      Projection.applyTo projection document := by
  obtain ⟨schema, known, there⟩ := varies.declared
  obtain ⟨others, excludes⟩ := protects schema known
  have listed : [field.storageKey] ∈ schema.adminPaths :=
    Schema.mem_adminPaths.2 ⟨field, there, .inl ⟨varies.hidden, rfl⟩⟩
  refine Projection.applyTo_erase excludes ?_ (Field.dotless_storageKey dotless) document
  exact List.mem_append_left _ (List.mem_map.2 ⟨_, listed, rfl⟩)

theorem servesAlike (varies : SecretVariation registry collection field first second)
    (dotless : '.' ∉ field.name.toList) (protects : registry.Protects target projection) :
    first.ServesAlike second target projection :=
  varies.alike.get_eq fun same => varies.applyTo_erase dotless (same ▸ protects)

section Requests

variable {settings : Settings} {name : String} {parameters : Parameters} {context : Context}
  {plan : Plan}

theorem queries_alike (varies : SecretVariation registry collection field first second)
    (dotless : '.' ∉ field.name.toList) (unprivileged : context.elevated = false)
    (planned : Plan.compile registry settings name parameters context = .ok plan)
    (unread : plan.collection = collection → ¬ plan.query.Reads field.storageKey) :
    first.query name plan.query = second.query name plan.query := by
  have protects := Plan.protects_of_compile planned unprivileged
  obtain ⟨_, _, _, _, _, _, rfl⟩ := Plan.compile_eq_ok_iff.1 planned
  exact varies.alike.query_eq varies.reachable.keyed varies.reachable'.keyed unread
    fun same => varies.applyTo_erase dotless (same ▸ protects)

/-- Unless its own query reads the field, a request without privileges that has a plan is answered
alike by both states, as far as the entries that they hold for it correspond. -/
theorem answers_correspond (varies : SecretVariation registry collection field first second)
    (dotless : '.' ∉ field.name.toList) (unprivileged : context.elevated = false)
    (planned : Plan.compile registry settings name parameters context = .ok plan)
    (unread : plan.collection = collection → ¬ plan.query.Reads field.storageKey)
    {related : Document → Document → Prop} (reflexive : ∀ document, related document document)
    (entries : ∀ sync, plan.sync = some sync → Corresponds (List.Forall₂ related)
      (first.query settings.journalCollection (Journal.since sync.collection sync.since))
      (second.query settings.journalCollection (Journal.since sync.collection sync.since))) :
    let service : Service Store := ⟨Store.backend, registry, settings⟩
    Corresponds (List.Forall₂ related) ((service.findAll name parameters context).on first).1
      ((service.findAll name parameters context).on second).1 := by
  intro service
  have queried := varies.queries_alike dotless unprivileged planned unread
  obtain ⟨own, _, _, found, _, _, same⟩ := Plan.compile_eq_ok_iff.1 planned
  have trusted := Plan.trusted_of_compile planned found
  have known : registry.get? plan.collection = some own := same ▸ found
  rw [← (varies.built.get? found).2] at queried
  have answers : service.findAll name parameters context = service.answer own plan :=
    Service.findAll_eq_answer found planned
  rw [answers]
  refine Service.answer_corresponds reflexive known queried ?_ (fun target => ?_) entries
  · intro directive listed target refers
    exact varies.servesAlike dotless (trusted directive listed target refers).2
  · exact varies.servesAlike dotless (registry.protects_deepSelection target)

end Requests

end SecretVariation

namespace Service

variable {registry : Registry} {settings : Settings} {collection : String} {field : Field}
  {first second : Store} {name : String} {parameters : Parameters} {context : Context}

/-- Unless a query of its plan reads the field, a request without privileges gets the same error, or
the same identifiers in the same order, from two states that differ in a hidden field alone. It
gets the same documents, unless the journal that a sync request reads is the collection itself. -/
theorem findAll_uninfluenced (varies : SecretVariation registry collection field first second)
    (dotless : '.' ∉ field.name.toList) (unprivileged : context.elevated = false)
    (unread : ∀ plan, Plan.compile registry settings name parameters context = .ok plan →
      ¬ plan.Reads settings.journalCollection collection field.storageKey) :
    let run (store : Store) := ((Service.findAll ⟨Store.backend, registry, settings⟩ name parameters
      context).on store).1
    identifiers (run first) = identifiers (run second) ∧
      (settings.journalCollection ≠ collection ∨ context.updatesSince = none →
        run first = run second) := by
  intro run
  rcases findAll_cases (⟨Store.backend, registry, settings⟩ : Service Store) name parameters context
    with ⟨error, same⟩ | ⟨own, plan, _, planned, _⟩
  · have failed (store : Store) : run store = .error error := by
      simp only [run, same, Action.on_lift]
    exact ⟨by rw [failed, failed], fun _ => by rw [failed, failed]⟩
  have own_unread (here : plan.collection = collection) : ¬ plan.query.Reads field.storageKey :=
    fun reads => unread plan planned (.inl ⟨here, reads⟩)
  constructor
  · have twins : Corresponds (List.Forall₂ (Document.Twins field.storageKey)) (run first)
        (run second) := by
      refine varies.answers_correspond dotless unprivileged planned own_unread
        (fun _ => ⟨rfl, rfl⟩) fun sync synced => ?_
      refine varies.alike.query_corresponds varies.reachable.keyed varies.reachable'.keyed
        (fun here reads => ?_) rfl
      exact unread plan planned (.inr ⟨sync, synced, here, reads⟩)
    exact identifiers_eq_of_twins twins
  · intro apart
    have equals : Corresponds (List.Forall₂ Eq) (run first) (run second) := by
      refine varies.answers_correspond dotless unprivileged planned own_unread (fun _ => rfl)
        fun sync synced => ?_
      rcases apart with apart | unbounded
      · rw [varies.alike.query_elsewhere apart]
        exact .refl (fun _ => List.forall₂_same.2 fun _ _ => rfl) _
      · rw [Plan.sync_of_unbounded unbounded planned] at synced
        cases synced
    rw [List.forall₂_eq_eq_eq] at equals
    exact equals.eq

end Service

def Field.secret (name : String) (type : Primitive) : Field :=
  ⟨name, .primitive type, false, true⟩

def Schema.agent : Schema :=
  ⟨"agent", [.plain idKey (.reference "agent"), .plain "name" (.primitive .string),
    .secret "updated" .date, .secret "model" .string, .secret "no.te" .string]⟩

namespace Registry

def agents : Registry :=
  ⟨⟨[("agent", .agent), (defaultJournal, .journal defaultJournal)], by decide⟩⟩

theorem built_agents : agents.Built := by
  refine ⟨[.agent], defaultJournal, ?_, rfl⟩
  rw [List.forall_mem_singleton]
  refine .of_flat ?_ ⟨"agent", Schema.agent.fields, rfl⟩
  simp [Schema.agent, Field.plain, Field.secret, FieldType.embeddedSchema?, FieldType.element]

end Registry

def Document.agent (id : ObjectId) (key : String) (value : Value) : Document :=
  [(idKey, .objectId id), ("name", .string "x"), (key, value)]

def Document.journaledAgent (model : String) : Document :=
  [(idKey, .objectId ⟨1⟩), ("updated", .date ⟨1⟩), (modelKey, .string model),
    (deletedKey, .date ⟨1⟩)]

namespace Store

def agents (documents : List Document) : Store :=
  (Store.empty.insert "agent" documents).2

end Store

theorem SecretVariation.agents {field : Field} {documents others : List Document}
    (there : field ∈ Schema.agent.fields) (hidden : field.adminOnly = true)
    (alike : List.Forall₂
      (fun a b => a.1 = b.1 ∧ a.2.erase field.storageKey = b.2.erase field.storageKey)
      ((Store.agents documents).shelf "agent").entries
      ((Store.agents others).shelf "agent").entries) :
    SecretVariation .agents "agent" field (Store.agents documents) (Store.agents others) where
  built := Registry.built_agents
  declared := ⟨.agent, rfl, there⟩
  hidden := hidden
  reachable := .insert "agent" documents .empty
  reachable' := .insert "agent" others .empty
  alike := {
    elsewhere := fun _ apart =>
      (Store.shelf_on_of_ne (.insert "agent" documents) .empty apart.symm).trans
        (Store.shelf_on_of_ne (.insert "agent" others) .empty apart.symm).symm
    here := alike }

namespace Service

/-- Agents whose names are asked for, and sorted, are shown alike whatever their models are. -/
theorem findAll_uninfluenced_agents :
    let first := Store.agents [.agent ⟨1⟩ "model" (.string "a"), .agent ⟨2⟩ "model" .null]
    let second := Store.agents [.agent ⟨1⟩ "model" (.string "b"), .agent ⟨2⟩ "model" .null]
    let request : Parameters := [("filter[name]", ">>a"), ("sort", "name"), ("populate", "_id")]
    SecretVariation .agents "agent" (.secret "model" .string) first second ∧
    (∀ plan, Plan.compile .agents {} "agent" request {} = .ok plan →
      ¬ plan.Reads defaultJournal "agent" "model") ∧
    ((Service.findAll ⟨Store.backend, .agents, {}⟩ "agent" request {}).on first).1 =
      ((Service.findAll ⟨Store.backend, .agents, {}⟩ "agent" request {}).on second).1 := by
  intro first second request
  have there : Field.secret "model" .string ∈ Schema.agent.fields := by simp [Schema.agent]
  have varies : SecretVariation .agents "agent" (.secret "model" .string) first second :=
    .agents there rfl (by decide +kernel)
  have read : (Plan.compile .agents {} "agent" request {}).toOption.map
      (fun plan => decide (plan.Reads defaultJournal "agent" "model")) = some false := by
    decide +kernel
  have unread : ∀ plan, Plan.compile .agents {} "agent" request {} = .ok plan →
      ¬ plan.Reads defaultJournal "agent" "model" := by
    intro plan planned
    rw [planned] at read
    exact of_decide_eq_false (Option.some.inj read)
  have dotless : '.' ∉ (Field.secret "model" .string).name.toList := by decide
  obtain ⟨_, same⟩ := findAll_uninfluenced varies dotless rfl unread
  exact ⟨varies, unread, same (.inr rfl)⟩

/-- A request without privileges tells apart two states that differ in a hidden field alone. -/
structure Reveals (registry : Registry) (settings : Settings) (collection : String) (field : Field)
    (first second : Store) (name : String) (parameters : Parameters) (context : Context) :
    Prop where
  varies : SecretVariation registry collection field first second
  unprivileged : context.elevated = false
  told : identifiers ((Service.findAll ⟨Store.backend, registry, settings⟩ name parameters
      context).on first).1 ≠
    identifiers ((Service.findAll ⟨Store.backend, registry, settings⟩ name parameters
      context).on second).1

def agentsSeen (settings : Settings) (parameters : Parameters) (since : Option String)
    (documents : List Document) : Except AccessError (List (Option Value)) :=
  identifiers ((Service.findAll ⟨Store.backend, .agents, settings⟩ "agent" parameters
    ⟨none, false, since⟩).on (Store.agents documents)).1

theorem reveals_agents {settings : Settings} {field : Field} {documents others : List Document}
    {parameters : Parameters} {since : Option String} (there : field ∈ Schema.agent.fields)
    (hidden : field.adminOnly = true)
    (alike : List.Forall₂
      (fun a b => a.1 = b.1 ∧ a.2.erase field.storageKey = b.2.erase field.storageKey)
      ((Store.agents documents).shelf "agent").entries
      ((Store.agents others).shelf "agent").entries)
    (told : (agentsSeen settings parameters since documents).toOption ≠
      (agentsSeen settings parameters since others).toOption) :
    Reveals .agents settings "agent" field (Store.agents documents) (Store.agents others)
      "agent" parameters ⟨none, false, since⟩ where
  varies := .agents there hidden alike
  unprivileged := rfl
  told := fun same => told (congrArg Except.toOption same)

/-- A hidden field tells by the filter, by the order, by the bound of a sync request, which is a
filter by a field of the settings, and by the entries of a journal that has the field. If its name
has a dot in it, no selection hides it, so that it is seen in the place of an identifier. -/
theorem findAll_influenced :
    Reveals .agents {} "agent" (.secret "model" .string)
        (Store.agents [.agent ⟨1⟩ "model" (.string "a")])
        (Store.agents [.agent ⟨1⟩ "model" (.string "b")])
        "agent" [("filter[model]", ">>a")] {} ∧
    Reveals .agents {} "agent" (.secret "model" .string)
        (Store.agents [.agent ⟨1⟩ "model" (.string "a"), .agent ⟨2⟩ "model" (.string "b")])
        (Store.agents [.agent ⟨1⟩ "model" (.string "b"), .agent ⟨2⟩ "model" (.string "a")])
        "agent" [("sort", "model")] {} ∧
    Reveals .agents {} "agent" (.secret "updated" .date)
        (Store.agents [.agent ⟨1⟩ "updated" (.date ⟨1⟩)])
        (Store.agents [.agent ⟨1⟩ "updated" (.date ⟨-1⟩)])
        "agent" [] ⟨none, false, some "1970-01-01"⟩ ∧
    Reveals .agents { journalCollection := "agent" } "agent" (.secret "model" .string)
        (Store.agents [.journaledAgent "agent"]) (Store.agents [.journaledAgent "x"])
        "agent" [] ⟨none, false, some "1970-01-01"⟩ ∧
    Reveals .agents {} "agent" (.secret "no.te" .string)
        (Store.agents [.agent ⟨1⟩ "no.te" (.string "a")])
        (Store.agents [.agent ⟨1⟩ "no.te" (.string "b")])
        "agent" [("populate", "_id")] {} := by
  have updated : Field.secret "updated" .date ∈ Schema.agent.fields := by simp [Schema.agent]
  have model : Field.secret "model" .string ∈ Schema.agent.fields := by simp [Schema.agent]
  have dotted : Field.secret "no.te" .string ∈ Schema.agent.fields := by simp [Schema.agent]
  exact ⟨reveals_agents model rfl (by decide +kernel) (by decide +kernel),
    reveals_agents model rfl (by decide +kernel) (by decide +kernel),
    reveals_agents updated rfl (by decide +kernel) (by decide +kernel),
    reveals_agents model rfl (by decide +kernel) (by decide +kernel),
    reveals_agents dotted rfl (by decide +kernel) (by decide +kernel)⟩

end Service

end DocumentQuery
