import DocumentQuery.Proofs.Journal.Recorded
import DocumentQuery.Proofs.Population.Calls
import DocumentQuery.Proofs.Service.Failures

/-! Calls of a list request. A request that has a plan queries its collection, expands the answer
path by path, and reads the journal if it is a sync request. The number of its calls has a bound
that the request itself sets, whatever is stored; and it makes no call after one that failed.
-/

set_option autoImplicit false

namespace DocumentQuery

open Observed

variable (refuses : List Call → Call → Bool)

/-- Querying a collection takes one call, and expanding the answer takes one at most for each
directive. An answer without documents is not expanded. -/
theorem Collection.ran_exec {schema : Schema} {query : Query} {before : Observed Store}
    {page : List Document} (answered : before.inner.query schema.name query = .ok page)
    (journal : String) :
    let collection : Collection (Observed Store) := ⟨schema, Store.observed refuses, journal⟩
    ∃ shallow,
      Ran refuses before (.query schema.name :: shallow) ((collection.exec query).on before) ∧
      List.SublistForall₂ Call.FetchesFor shallow query.populate ∧ (page = [] → shallow = []) ∧
      ∀ shown after, (collection.exec query).on before = (.ok shown, after) →
        shown.length = page.length := by
  intro collection
  let call : Call := .query schema.name
  let asked := collection.backend.query { query with populate := [] } collection.name
  have found : (Store.backend.query { query with populate := [] } schema.name).on before.inner =
      (.ok page, before.inner) := congrArg (·, before.inner) answered
  have ran : Ran refuses before [call] (asked.on before) := ran_call call found
  have step : asked.on before = _ := on_call_answered refuses call found
  rw [exec]
  split at step
  · refine ⟨[], ran.stop step, .nil, fun _ => rfl, fun shown after run => ?_⟩
    rw [Action.on_bind, step] at run
    cases run
  · cases page with
    | nil =>
      refine ⟨[], ran.bind step (ran_pure _), .nil, fun _ => rfl, fun shown after run => ?_⟩
      rw [Action.on_bind, step] at run
      cases run
      rfl
    | cons document rest =>
      obtain ⟨shallow, expands, served⟩ := Population.ran_expandAll refuses query.populate
        (document :: rest) ⟨before.inner, call :: before.calls⟩
      refine ⟨shallow, ran.bind step expands, served,
        fun empty => absurd empty (List.cons_ne_nil _ _), fun shown after run => ?_⟩
      rw [Action.on_bind, step] at run
      exact Population.length_of_expandAll run

namespace Plan

variable {registry : Registry} {root : Schema} {plan : Plan}

def journalCalls (plan : Plan) (journal : String) : List Call :=
  (plan.sync.map fun _ => Call.query journal).toList

theorem ran_expandDeep (known : registry.get? plan.collection = some root)
    (set : DocumentSet) (before : Observed Store) :
    ∃ deep,
      Ran refuses before deep
        ((plan.expandDeep (Store.observed refuses) registry set).on before) ∧
      List.SublistForall₂ (Call.FetchesAt registry root) deep plan.deepPaths := by
  rcases expandDeep_cases known (Store.observed refuses) set with same | same
  · rw [same]
    exact ⟨[], ran_pure _, .nil⟩
  · rw [same]
    exact Population.ran_expandPaths refuses registry root plan.locale plan.deepPaths set before

theorem ran_addDeleted (plan : Plan) (journal : String) (documents : List Document)
    (before : Observed Store) :
    Ran refuses before (plan.journalCalls journal)
      ((plan.addDeleted (Store.observed refuses) journal (.many documents)).on before) := by
  rw [addDeleted, journalCalls]
  cases plan.sync with
  | none => exact ran_pure _
  | some sync =>
    refine Ran.map ?_ fun deleted => DocumentSet.many (documents ++ deleted)
    exact ran_call _ (Journal.deletedSince_on before.inner journal sync.collection sync.since)

theorem map_of_expandDeep {σ : Type} {backend : Backend σ} {set expanded : DocumentSet}
    {state after : σ} (known : registry.get? plan.collection = some root)
    (run : (plan.expandDeep backend registry set).on state = (.ok expanded, after)) :
    ∃ change, expanded = set.map change := by
  rcases expandDeep_cases known backend set with same | same
  · rw [same] at run
    cases run
    exact ⟨id, set.map_id.symm⟩
  · rw [same] at run
    obtain ⟨came, _⟩ := Prod.mk.inj run
    rw [← Population.DeepRun.documents_of_ok came]
    exact Population.map_of_expandPaths backend registry root plan.locale plan.deepPaths set state

/-- The assembly of a list expands it deeply and then reads the journal, unless the list is empty or
a call has failed. -/
theorem ran_assemble (known : registry.get? plan.collection = some root) (settings : Settings)
    (documents : List Document) (before : Observed Store) :
    let assembly := (plan.assemble (Store.observed refuses) registry settings
      (.many documents)).on before
    ∃ deep last,
      Ran refuses before (deep ++ last) assembly ∧
      List.SublistForall₂ (Call.FetchesAt registry root) deep plan.deepPaths ∧
      (last = [] ∨ last = plan.journalCalls settings.journalCollection) ∧
      (documents = [] → deep ++ last = []) ∧
      (assembly.1.isOk → documents ≠ [] → last = plan.journalCalls settings.journalCollection) := by
  intro assembly
  by_cases empty : documents = []
  · subst empty
    exact ⟨[], [], ran_pure _, .nil, .inl rfl, fun _ => rfl, fun _ filled => absurd rfl filled⟩
  · have filled : (DocumentSet.many documents).isEmpty ≠ true :=
      fun none_there => empty (List.isEmpty_iff.1 none_there)
    have expands : assembly = (do
        let set ← plan.expandDeep (Store.observed refuses) registry (.many documents)
        plan.addDeleted (Store.observed refuses) settings.journalCollection set :
          Action (Observed Store) DocumentSet).on before := by
      simp only [assembly, assemble, if_neg filled]
    obtain ⟨deep, ran, served⟩ := plan.ran_expandDeep refuses known (.many documents) before
    rcases step : (plan.expandDeep (Store.observed refuses) registry (.many documents)).on before
      with ⟨error | set, between⟩
    · refine ⟨deep, [], ?_, served, .inl rfl, fun same => absurd same empty, fun done => ?_⟩
      · rw [List.append_nil, expands]
        exact ran.stop step
      · rw [expands, Action.on_bind, step] at done
        cases done
    · obtain ⟨change, rfl⟩ := map_of_expandDeep known step
      refine ⟨deep, _, ?_, served, .inr rfl, fun same => absurd same empty, fun _ _ => rfl⟩
      rw [expands]
      exact ran.bind step (plan.ran_addDeleted refuses _ (documents.map change) between)

end Plan

/-- The calls that follow the query of a plan, which gives a page: those of shallow expansion, those
of deep expansion and the last, which reads the journal. -/
structure Plan.FollowUp (plan : Plan) (registry : Registry) (root : Schema) (journal : String)
    (page : List Document) (shallow deep last : List Call) (complete : Bool) : Prop where
  /-- Each call fetches for a directive of its own, and they come in the order of the directives. -/
  served : List.SublistForall₂ Call.FetchesFor shallow plan.query.populate
  /-- Each call fetches at a path of its own, and they come in the order of the paths. -/
  reached : List.SublistForall₂ (Call.FetchesAt registry root) deep plan.deepPaths
  ending : last = [] ∨ last = plan.journalCalls journal
  unfilled : page = [] → shallow ++ deep ++ last = []
  finished : complete → page ≠ [] → last = plan.journalCalls journal

/-- Whatever is stored, the request bounds the number of calls. -/
theorem Plan.FollowUp.length_le {plan : Plan} {registry : Registry} {root : Schema}
    {journal : String} {page : List Document} {shallow deep last : List Call} {complete : Bool}
    (follows : plan.FollowUp registry root journal page shallow deep last complete) :
    (shallow ++ deep ++ last).length ≤
      plan.query.populate.length + plan.deepPaths.length + 1 := by
  obtain ⟨directives, served, within⟩ := List.sublistForall₂_iff.1 follows.served
  obtain ⟨paths, reached, below⟩ := List.sublistForall₂_iff.1 follows.reached
  have first : shallow.length ≤ plan.query.populate.length :=
    served.length_eq ▸ within.length_le
  have second : deep.length ≤ plan.deepPaths.length := reached.length_eq ▸ below.length_le
  have third : last.length ≤ 1 := by
    rcases follows.ending with rfl | rfl
    · exact Nat.zero_le 1
    · rw [journalCalls]
      cases plan.sync <;> simp
  simp only [List.length_append]
  omega

namespace Service

variable {registry : Registry} {settings : Settings} {name : String} {parameters : Parameters}
  {context : Context} {plan : Plan}

theorem ran_answer (settings : Settings) {schema : Schema} {before : Observed Store}
    {page : List Document}
    (known : registry.get? plan.collection = some schema)
    (answered : before.inner.query schema.name plan.query = .ok page) :
    let service : Service (Observed Store) := ⟨Store.observed refuses, registry, settings⟩
    let run := (service.answer schema plan).on before
    ∃ shallow deep last,
      Ran refuses before (.query schema.name :: (shallow ++ deep ++ last)) run ∧
      plan.FollowUp registry schema settings.journalCollection page shallow deep last
        run.1.isOk := by
  intro service run
  obtain ⟨shallow, ran, served, unfilled, kept⟩ :=
    Collection.ran_exec refuses answered settings.journalCollection
  rcases step : ((⟨schema, Store.observed refuses, settings.journalCollection⟩ :
    Collection (Observed Store)).exec plan.query).on before with ⟨error | documents, between⟩
  · have failed : run = (.error error, between) := by
      simp only [run, answer, Action.on_bind, service, step]
    refine ⟨shallow, [], [], ?_, served, .nil, .inl rfl, ?_, ?_⟩
    · rw [List.append_nil, List.append_nil]
      exact ran.stop step
    · simpa using unfilled
    · rw [failed]
      exact fun done => absurd done Bool.false_ne_true
  · obtain ⟨deep, last, assembles, reached, ending, unread, read⟩ :=
      plan.ran_assemble refuses known settings documents between
    have emptiness : documents = [] ↔ page = [] := by
      rw [← List.length_eq_zero_iff, kept documents between step, List.length_eq_zero_iff]
    refine ⟨shallow, deep, last, ?_, served, reached, ending, fun none_there => ?_,
      fun done some_there => read ?_ (mt emptiness.1 some_there)⟩
    · rw [List.append_assoc]
      exact ran.bind step (assembles.map DocumentSet.toList)
    · rw [List.append_assoc, unread (emptiness.2 none_there), unfilled none_there]
      rfl
    · rcases assembled : (plan.assemble (Store.observed refuses) registry settings
        (.many documents)).on between with ⟨error | set, after⟩
      · have failed : run = (.error error, after) := by
          simp only [run, answer, Action.on_bind, service, step, assemble, assembled]
        rw [failed] at done
        cases done
      · rfl

/-- Once a list request has a plan, it calls the store in this order: one query of the collection;
for a page that is not empty, a call at most for each directive and then for each deep path; at last
the query of the journal, if it is a sync request. Whichever calls the store refuses, nothing
follows a call that failed. -/
theorem findAll_calls (planned : Plan.compile registry settings name parameters context = .ok plan)
    (refuses : List Call → Call → Bool) (before : Observed Store) :
    ∃ schema page shallow deep last,
      let calls := .query schema.name :: (shallow ++ deep ++ last)
      let run := (Service.findAll ⟨Store.observed refuses, registry, settings⟩ name parameters
        context).on before
      registry.get? name = some schema ∧ before.inner.query schema.name plan.query = .ok page ∧
      Ran refuses before calls run ∧
      plan.FollowUp registry schema settings.journalCollection page shallow deep last run.1.isOk ∧
      calls.length ≤ 2 + plan.query.populate.length + plan.deepPaths.length := by
  obtain ⟨schema, _, _, known, _, _, same⟩ := Plan.compile_eq_ok_iff.1 planned
  have collected : registry.get? plan.collection = some schema := same ▸ known
  obtain ⟨page, answered⟩ :=
    before.inner.exists_query (Plan.readable_of_compile planned) schema.name
  obtain ⟨shallow, deep, last, ran, follows⟩ :=
    ran_answer refuses settings collected answered
  have answers : Service.findAll ⟨Store.observed refuses, registry, settings⟩ name parameters
      context = Service.answer ⟨Store.observed refuses, registry, settings⟩ schema plan :=
    findAll_eq_answer known planned
  have length_le := follows.length_le
  refine ⟨schema, page, shallow, deep, last, known, answered, ?_⟩
  rw [answers]
  refine ⟨ran, follows, ?_⟩
  rw [List.length_cons]
  omega

end Service

def Registry.library : Registry :=
  ⟨.ofPairs [("reader", ⟨"reader", [.plain "books" (.array (.reference "book"))]⟩),
    ("book", ⟨"book", []⟩)]⟩

def Store.library : Store :=
  (Store.empty.insert "reader" [
    [(idKey, .objectId ⟨1⟩), ("books", .array [.objectId ⟨7⟩, .objectId ⟨8⟩])],
    [(idKey, .objectId ⟨2⟩), ("books", .array [.objectId ⟨8⟩, .objectId ⟨8⟩])],
    [(idKey, .objectId ⟨3⟩), ("books", .array [.objectId ⟨7⟩])]]).2

namespace Service

def loans : Parameters :=
  [("populate", "books"), ("populatedeep", "books.author")]

/-- The books of three readers are fetched in one call, and nothing is reached behind them. Whatever
is stored and refused, this request takes four calls at most. -/
theorem findAll_calls_library :
    (∃ plan, Plan.compile .library {} "reader" loans {} = .ok plan) ∧
      ((Service.findAll ⟨Store.observed fun _ _ => false, .library, {}⟩ "reader" loans
        {}).on ⟨.library, []⟩).2.calls = [.get "book" [⟨7⟩, ⟨8⟩] none, .query "reader"] ∧
      ∀ refuses before, ((Service.findAll ⟨Store.observed refuses, .library, {}⟩ "reader" loans
        {}).on before).2.calls.length ≤ before.calls.length + 4 := by
  have asks : (Plan.compile .library {} "reader" loans {}).toOption.map
      (fun plan => (plan.query.populate.length, plan.deepPaths.length)) = some (1, 1) := by
    decide +kernel
  obtain ⟨plan, shown, sizes⟩ := Option.map_eq_some_iff.1 asks
  obtain ⟨directives, paths⟩ := Prod.mk.inj sizes
  have planned := ok_of_toOption shown
  refine ⟨⟨plan, planned⟩, by decide +kernel, fun refuses before => ?_⟩
  obtain ⟨_, _, _, _, _, _, _, ran, _, bounded⟩ := findAll_calls planned refuses before
  rw [ran.noted, List.length_append, List.length_reverse]
  omega

end Service

end DocumentQuery
