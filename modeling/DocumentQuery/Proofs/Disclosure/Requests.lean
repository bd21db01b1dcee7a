import DocumentQuery.Proofs.Disclosure.BlindSpot
import DocumentQuery.Proofs.Disclosure.Population
import DocumentQuery.Proofs.Service.Requests
import DocumentQuery.Proofs.Store.Answers

/-! Requests without privileges. The hidden paths of a schema look through one layer of
array and follow fields by their names, while types are read through any number of
layers and localized fields lie under another key. Lists therefore hide what is kept for
administrators exactly when no registered schema has a blind spot.
-/

set_option autoImplicit false

namespace DocumentQuery

section Hiding

variable {registry : Registry} {schema : Schema} {store after : Store}

theorem Plan.expandDeep_tight (guarded : registry.Guarded) (shaped : store.Shaped registry)
    {plan : Plan} {set : DocumentSet} (known : registry.get? plan.collection = some schema)
    (given : ∀ document ∈ set.toList, ¬ registry.Leaks schema document) :
    ∃ expanded, (plan.expandDeep Store.backend registry set).on store = (.ok expanded, store) ∧
      ∀ document ∈ expanded.toList, ¬ registry.Leaks schema document := by
  rcases expandDeep_cases known Store.backend set with same | same
  · rw [same]
    exact ⟨set, rfl, given⟩
  · obtain ⟨expanded, run, tight⟩ :=
      Population.expandPaths_tight guarded shaped plan.locale plan.deepPaths given
    rw [same, run]
    exact ⟨expanded, rfl, tight⟩

theorem Plan.assemble_tight (guarded : registry.Guarded) (shaped : store.Shaped registry)
    {plan : Plan} (settings : Settings) {set assembled : DocumentSet}
    (known : registry.get? plan.collection = some schema) (unsynced : plan.sync = none)
    (given : ∀ document ∈ set.toList, ¬ registry.Leaks schema document)
    (run : (plan.assemble Store.backend registry settings set).on store = (.ok assembled, after)) :
    ∀ document ∈ assembled.toList, ¬ registry.Leaks schema document := by
  obtain ⟨expanded, expansion, expandedTight⟩ := expandDeep_tight guarded shaped known given
  rw [assemble] at run
  split at run
  · cases run
    exact given
  · rw [Action.on_bind, expansion] at run
    simp only [addDeleted_of_unsynced unsynced, Action.on_pure, Prod.mk.injEq,
      Except.ok.injEq] at run
    rw [← run.1]
    exact expandedTight

/-- Without blind spots, what is kept for administrators stays hidden. -/
theorem Registry.Guarded.discreet (guarded : registry.Guarded) : registry.Discreet := by
  intro settings store name schema parameters context documents after _ shaped known
    unprivileged unsynced run document there
  obtain ⟨again, plan, found, planned, run⟩ := Service.findAll_ok run
  rw [known] at found
  cases found
  obtain ⟨_, since, clauses, found, bound, _, compiled⟩ := Plan.compile_eq_ok_iff.1 planned
  rw [known] at found
  cases found
  rw [unsynced] at bound
  cases bound
  have named : plan.collection = name := by rw [compiled]; rfl
  have single : plan.sync = none := by rw [compiled]; rfl
  have trusted := Plan.trusted_of_compile planned known
  have protects := Plan.protects_of_compile planned unprivileged
  clear compiled
  obtain ⟨expanded, between, assembled, exec, assembly, rfl⟩ := Service.answer_ok.1 run
  rw [Collection.exec_on] at exec
  split at exec
  · rename_i selected answered
    have tight : ∀ document ∈ selected, ¬ registry.Leaks schema document := by
      intro document there
      obtain ⟨stored, under, same⟩ := Store.mem_query answered there
      rw [(guarded.built.get? known).2] at under
      exact same ▸ guarded.not_leaks_stored shaped known under protects
    obtain ⟨rfl, tight⟩ := Population.expandAll_tight guarded shaped trusted tight exec
    apply hides_of_not_leaks guarded.built guarded.conceals known
    refine Plan.assemble_tight guarded shaped settings ?_ single ?_ assembly document there
    · rw [named]
      exact known
    · exact tight
  · cases exec

end Hiding

section Showing

variable {registry : Registry} {schema : Schema}

theorem Store.values_insert_single {document : Document} {id : ObjectId} (collection : String)
    (named : document.id? = some id) (other : String) :
    ((Store.empty.insert collection [document]).2.shelf other).values =
      if collection = other then [document] else [] := by
  rw [insert_fresh named rfl, shelf_withShelf]
  split <;> rfl

theorem Schema.applyTo_of_untouched {document : Document} (dotless : schema.Dotless)
    (settings : Settings) {locale : String}
    (plain : ∀ other ∈ settings.locales.supported.filter (· ≠ locale), '.' ∉ other.toList)
    (kept : ∀ path, schema.Removable (settings.locales.supported.filter (· ≠ locale)) path →
      document.without path = document) :
    Projection.applyTo (Plan.selection settings schema locale false) document = document := by
  have excludes := Projection.excludesExactly_both
    (Projection.excludesExactly_hiding (schema.adminPaths.map Path.text))
    (Projection.excludesExactly_hiding
      ((schema.variantPaths (settings.locales.supported.filter (· ≠ locale))).map Path.text))
  have step : ∀ text ∈ schema.adminPaths.map Path.text ++
      (schema.variantPaths (settings.locales.supported.filter (· ≠ locale))).map Path.text,
      document.without (Path.ofText text) = document := by
    intro text listed
    rcases List.mem_append.1 listed with hidden | variant
    · obtain ⟨path, there, rfl⟩ := List.mem_map.1 hidden
      rw [dotless.ofText_adminPath there]
      exact kept path (.inl there)
    · obtain ⟨path, there, rfl⟩ := List.mem_map.1 variant
      rw [dotless.ofText_variantPath plain there]
      exact kept path (.inr there)
  have same (part : Document) (h : part = document) (text : String) (listed : text ∈ _) :
      part.without (Path.ofText text) = document := h ▸ step text listed
  exact Projection.applyTo_keeps excludes (fun text listed part h => same part h text listed) rfl

theorem Service.findAll_single {name : String} {document : Document} {id : ObjectId}
    (known : registry.get? name = some schema) (own : schema.name = name)
    (named : document.id? = some id)
    (kept : Projection.applyTo (Plan.selection {} schema "en" false) document = document) :
    (Service.findAll ⟨Store.backend, registry, {}⟩ name [] {}).on
        (Store.empty.insert name [document]).2 =
      (.ok [document], (Store.empty.insert name [document]).2) := by
  have values := Store.values_insert_single name named name
  rw [if_pos rfl] at values
  generalize (Store.empty.insert name [document]).2 = store at values ⊢
  have planned : (⟨Store.backend, registry, {}⟩ : Service Store).plan name [] {} =
      .ok (Plan.ofReading registry {} schema name {} (Plan.Reading.ofParameters {} []) none []) :=
    Plan.compile_nil known rfl
  have answered : store.query schema.name
      (Plan.ofReading registry {} schema name {} (Plan.Reading.ofParameters {} []) none []).query =
        .ok [document] := by
    have shown : (Store.page (some 0) (some 100) [document]).map
        (Projection.applyTo (Plan.selection {} schema "en" false)) = [document] := by
      rw [show Store.page (some 0) (some 100) [document] = [document] from rfl, List.map_singleton,
        kept]
    rw [own, Store.query, values]
    exact congrArg Except.ok shown
  rw [Service.findAll_eq_answer known planned, Service.answer_ok]
  refine ⟨[document], store, .many [document], ?_, rfl, rfl⟩
  rw [Collection.exec_on, answered]
  rfl

theorem Registry.Discreet.not_exposes (discreet : registry.Discreet) (built : registry.Built)
    {name : String} {document : Document} {id : ObjectId}
    (known : registry.get? name = some schema) (named : document.id? = some id)
    (shaped : schema.Shapes document)
    (kept : Projection.applyTo (Plan.selection {} schema "en" false) document = document) :
    ¬ schema.Exposes document := by
  have run := Service.findAll_single known (built.get? known).2 named kept
  have reachable := Store.Reachable.empty.insert name [document]
  have stored : (Store.empty.insert name [document]).2.Shaped registry := by
    intro other found knownToo stored there
    rw [Store.values_insert_single name named] at there
    split at there
    · rename_i same
      subst same
      rw [known] at knownToo
      cases knownToo
      rw [List.mem_singleton.1 there]
      exact shaped
    · cases there
  exact (discreet {} _ name schema [] {} _ _ reachable stored known rfl rfl run document
    List.mem_cons_self).1

/-- A registry that shows nothing has no blind spot, when its fields are stored apart. -/
theorem Registry.conceals_of_discreet (built : registry.Built) (dotless : registry.Dotless)
    (apart : registry.Apart) (discreet : registry.Discreet) : registry.Conceals := by
  intro name schema known blind
  obtain ⟨fieldsApart, identifiable⟩ := apart name schema known
  obtain ⟨document, named, shaped, exposed, kept⟩ :=
    blind.exists_document "en" ["de", "fr", "it"] fieldsApart identifiable (by decide) ⟨0⟩
  have others : (({} : Settings).locales.supported.filter (· ≠ "en")) = ["de", "fr", "it"] := by
    decide
  have whole : Projection.applyTo (Plan.selection {} schema "en" false) document = document := by
    apply Schema.applyTo_of_untouched (dotless name schema known) {}
    · rw [others]
      decide
    · rw [others]
      exact kept
  exact discreet.not_exposes built known named shaped whole exposed

end Showing

/-- What is kept for administrators stays hidden without blind spots, and, when fields are stored
apart, only then. -/
theorem Registry.discreet_exactly {registry : Registry} (built : registry.Built)
    (dotless : registry.Dotless) :
    (registry.Conceals ∧ registry.SparesStamp → registry.Discreet) ∧
      (registry.Apart → registry.Discreet → registry.Conceals) := by
  constructor
  · rintro ⟨conceals, spares⟩
    exact Guarded.discreet ⟨built, dotless, conceals, spares⟩
  · exact conceals_of_discreet built dotless

theorem Schema.not_blindSpot_of_flat {schema : Schema}
    (flat : ∀ field ∈ schema.fields, field.type.embeddedSchema? = none) : ¬ schema.BlindSpot := by
  intro blind
  cases blind with
  | here there _ embedded _ _ | inside there _ embedded _ =>
    rw [flat _ there] at embedded
    cases embedded

def Schema.cell : Schema :=
  ⟨"cell", [.identifier, ⟨"note", .primitive .string, false, true⟩]⟩

def Schema.board : Schema :=
  ⟨"board", [.identifier, .plain "grid" (.array (.array (.embedded .cell)))]⟩

def Document.notedBoard : Document :=
  [(idKey, .objectId ⟨1⟩), ("grid", .array [.array [.document [("note", .string "secret")]]])]

namespace Schema

theorem forall_mem_cell {holds : Field → Prop} :
    (∀ field ∈ cell.fields, holds field) ↔
      holds .identifier ∧ holds ⟨"note", .primitive .string, false, true⟩ := by
  simp [cell]

theorem forall_mem_board {holds : Field → Prop} :
    (∀ field ∈ board.fields, holds field) ↔
      holds .identifier ∧ holds (.plain "grid" (.array (.array (.embedded .cell)))) := by
  simp [board]

theorem throughout_cell {holds : Schema → Prop} (here : holds cell) : cell.Throughout holds := by
  refine .intro here (forall_mem_cell.2 ⟨?_, ?_⟩)
  · rintro inner ⟨⟩
  · rintro inner ⟨⟩

theorem throughout_board {holds : Schema → Prop} (here : holds board) (inside : holds cell) :
    board.Throughout holds := by
  refine .intro here (forall_mem_board.2 ⟨?_, ?_⟩)
  · rintro inner ⟨⟩
  · rintro inner ⟨⟩
    exact throughout_cell inside

theorem built_cell : cell.Built :=
  throughout_cell ⟨"cell", [⟨"note", .primitive .string, false, true⟩], rfl⟩

theorem built_board : board.Built :=
  throughout_board ⟨"board", [.plain "grid" (.array (.array (.embedded .cell)))], rfl⟩
    built_cell.here

theorem dotless_cell : cell.Dotless :=
  throughout_cell (forall_mem_cell.2 ⟨by decide, by decide⟩)

theorem dotless_board : board.Dotless :=
  throughout_board (forall_mem_board.2 ⟨by decide, by decide⟩) dotless_cell.here

theorem shapes_notedBoard : board.Shapes Document.notedBoard := by
  have cell : cell.Shapes [("note", .string "secret")] := by
    refine .intro (forall_mem_cell.2 ⟨nofun, nofun⟩) (forall_mem_cell.2 ⟨?_, ?_⟩)
    · rintro value (⟨_, ⟨⟩⟩ | ⟨⟨⟩, _, _⟩)
    · rintro value (⟨_, ⟨⟩⟩ | ⟨⟨⟩, _, _⟩)
      exact .scalar rfl
  refine .intro (forall_mem_board.2 ⟨nofun, nofun⟩) (forall_mem_board.2 ⟨?_, ?_⟩)
  · rintro value (⟨_, ⟨⟩⟩ | ⟨⟨⟩, _, _⟩)
    exact .scalar rfl
  · rintro value (⟨_, ⟨⟩⟩ | ⟨⟨⟩, _, _⟩)
    refine .array (List.forall_mem_singleton.2 (.array (List.forall_mem_singleton.2 ?_)))
    exact .embedded cell

theorem exposes_notedBoard : board.Exposes Document.notedBoard := by
  have noted : (⟨"note", .primitive .string, false, true⟩ : Field) ∈ cell.fields := by simp [cell]
  have gridded : Field.plain "grid" (.array (.array (.embedded .cell))) ∈ board.fields := by
    simp [board]
  exact .inside gridded rfl (.plain rfl rfl)
    (.item List.mem_cons_self (.item List.mem_cons_self .here)) (.own noted rfl rfl)

end Schema

namespace Registry

def cells : Registry :=
  ⟨⟨[("cell", .cell), (defaultJournal, .journal defaultJournal)], by decide⟩⟩

def boards : Registry :=
  ⟨⟨[("board", .board), (defaultJournal, .journal defaultJournal)], by decide⟩⟩

theorem build_cells : build [.cell] defaultJournal = .ok cells := rfl

theorem build_boards : build [.board] defaultJournal = .ok boards := rfl

theorem built_cells : cells.Built :=
  ⟨[.cell], defaultJournal, by simpa using Schema.built_cell, build_cells⟩

theorem dotless_cells : cells.Dotless :=
  dotless_of_build build_cells (by simpa using Schema.dotless_cell)

/-- Cells hide their notes, since nothing is embedded in them. -/
theorem discreet_cells : cells.Built ∧ cells.Dotless ∧ cells.Discreet := by
  refine ⟨built_cells, dotless_cells,
    (discreet_exactly built_cells dotless_cells).1 ⟨?_, ?_⟩⟩
  · intro name schema found
    obtain ⟨there | rfl, _⟩ := get?_build build_cells found
    · rw [List.mem_singleton.1 there]
      exact Schema.not_blindSpot_of_flat (Schema.forall_mem_cell.2 ⟨rfl, rfl⟩)
    · exact Schema.not_blindSpot_of_flat (by
        simp [Schema.journal, Field.plain, FieldType.embeddedSchema?, FieldType.element])
  · intro name schema found
    obtain ⟨there | rfl, _⟩ := get?_build build_cells found
    · rw [List.mem_singleton.1 there]
      exact Schema.forall_mem_cell.2 ⟨by decide, by decide⟩
    · simp [Schema.journal, Field.plain]

/-- A caller without privileges is shown a note on a board, whose cells lie in rows. -/
theorem indiscreet_boards : boards.Built ∧ boards.Dotless ∧ ¬ boards.Discreet := by
  have built : boards.Built :=
    ⟨[.board], defaultJournal, by simpa using Schema.built_board, build_boards⟩
  refine ⟨built, dotless_of_build build_boards (by simpa using Schema.dotless_board), ?_⟩
  intro discreet
  have known : boards.get? "board" = some .board := rfl
  have named : Document.notedBoard.id? = some ⟨1⟩ := rfl
  exact discreet.not_exposes built known named Schema.shapes_notedBoard rfl
    Schema.exposes_notedBoard

end Registry

end DocumentQuery
