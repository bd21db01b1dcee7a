import DocumentQuery.Proofs.Filter.Conjunction
import DocumentQuery.Proofs.Projection.Identifier
import DocumentQuery.Proofs.Store.Contents

/-! Answers to queries. Selecting, sorting and paging only choose among the documents of
a collection, and a query by an identifier chooses one of them at most.
-/

set_option autoImplicit false

namespace DocumentQuery

namespace Document

theorem candidates_of_get? {document : Document} {field : String} {value : Value}
    (single : Path.ofText field = [field]) (held : document.get? field = some value)
    (scalar : ∀ items, value ≠ .array items) : document.candidates field = [value] := by
  rw [candidates, single, valuesAt_cons, held]
  cases value with
  | array items => exact absurd rfl (scalar items)
  | _ => rfl

theorem hasEqual_idKey_iff {document : Document} {own id : ObjectId}
    (named : document.id? = some own) :
    document.hasEqual idKey (.objectId id) = true ↔ own = id := by
  have held : document.candidates idKey = [.objectId own] :=
    candidates_of_get? (by decide) (get?_idKey_of_id? named) (by simp)
  simp [hasEqual, held, Value.same]

end Document

namespace Expr

theorem selectFrom_cons_ok {expr : Expr} {cache : PatternCache} {document : Document}
    {rest selected : List Document}
    (answered : expr.selectFrom cache (document :: rest) = .ok selected) :
    ∃ holds next others, expr.evaluate document cache = .ok (holds, next) ∧
      expr.selectFrom next rest = .ok others ∧
      selected = if holds then document :: others else others := by
  rw [selectFrom] at answered
  cases verdict : expr.evaluate document cache with
  | error error => simp [verdict, bind, Except.bind] at answered
  | ok found =>
    obtain ⟨holds, next⟩ := found
    cases later : expr.selectFrom next rest with
    | error error => simp [verdict, later, bind, Except.bind] at answered
    | ok others =>
      simp only [verdict, later, bind, Except.bind, pure, Except.pure, Except.ok.injEq] at answered
      exact ⟨holds, next, others, rfl, later, answered.symm⟩

theorem selectFrom_sublist {expr : Expr} {cache : PatternCache}
    {documents selected : List Document}
    (answered : expr.selectFrom cache documents = .ok selected) : selected.Sublist documents := by
  induction documents generalizing cache selected with
  | nil =>
    cases answered
    exact .slnil
  | cons document rest ih =>
    obtain ⟨holds, next, others, _, later, rfl⟩ := selectFrom_cons_ok answered
    cases holds with
    | true => exact (ih later).cons_cons document
    | false => exact (ih later).cons document

theorem evaluate_of_mem_selectFrom {expr : Expr} {cache : PatternCache}
    {documents selected : List Document} {document : Document}
    (answered : expr.selectFrom cache documents = .ok selected) (there : document ∈ selected) :
    ∃ before after, expr.evaluate document before = .ok (true, after) := by
  induction documents generalizing cache selected with
  | nil =>
    cases answered
    exact absurd there List.not_mem_nil
  | cons first rest ih =>
    obtain ⟨holds, next, others, verdict, later, rfl⟩ := selectFrom_cons_ok answered
    cases holds with
    | true =>
      rcases List.mem_cons.1 there with rfl | there
      · exact ⟨cache, next, verdict⟩
      · exact ih later there
    | false => exact ih later there

theorem selectFrom_congr {expr other : Expr}
    (same : ∀ document cache, expr.evaluate document cache = other.evaluate document cache)
    (cache : PatternCache) (documents : List Document) :
    expr.selectFrom cache documents = other.selectFrom cache documents := by
  induction documents generalizing cache with
  | nil => rfl
  | cons document rest ih =>
    rw [selectFrom, selectFrom, same]
    simp only [ih]

theorem evaluateAll_append (document : Document) (cache : PatternCache) (first second : List Expr) :
    evaluateAll document cache (first ++ second) = do
      match ← evaluateAll document cache first with
      | (true, cache) => evaluateAll document cache second
      | (false, cache) => return (false, cache) := by
  induction first generalizing cache with
  | nil => rfl
  | cons expr rest ih =>
    rw [List.cons_append, evaluateAll, evaluateAll]
    cases expr.evaluate document cache with
    | error error => rfl
    | ok verdict =>
      obtain ⟨_ | _, next⟩ := verdict
      · rfl
      · exact ih next

theorem evaluateAll_singleton (document : Document) (cache : PatternCache) (expr : Expr) :
    evaluateAll document cache [expr] = expr.evaluate document cache := by
  rw [evaluateAll]
  cases expr.evaluate document cache with
  | error error => rfl
  | ok verdict => obtain ⟨_ | _, next⟩ := verdict <;> rfl

theorem evaluate_of_filterOf {exprs : List Expr} {filter : Expr}
    (joined : Draft.filterOf exprs = some filter) (document : Document) (cache : PatternCache) :
    filter.evaluate document cache = evaluateAll document cache exprs := by
  rcases exprs with _ | ⟨expr, _ | ⟨next, rest⟩⟩
  · cases joined
  · cases joined
    exact (evaluateAll_singleton document cache filter).symm
  · cases joined
    rw [evaluate]

def Identifies (expr : Expr) (id : ObjectId) : Prop :=
  ∀ document before after, expr.evaluate document before = .ok (true, after) →
    document.hasEqual idKey (.objectId id) = true

theorem identifies_of_evaluateAll {exprs : List Expr} {filter : Expr} {id : ObjectId}
    (joined : ∀ document cache, filter.evaluate document cache =
      evaluateAll document cache (exprs ++ [.compare idKey .eq (.objectId id)])) :
    filter.Identifies id := by
  intro document before after holds
  rw [joined, evaluateAll_append] at holds
  cases verdict : evaluateAll document before exprs with
  | error error => simp [verdict, bind, Except.bind] at holds
  | ok found =>
    obtain ⟨all, next⟩ := found
    cases all with
    | true =>
      simp only [verdict, bind, Except.bind, evaluateAll_singleton, evaluate, evaluateComparison,
        Except.ok.injEq, Prod.mk.injEq] at holds
      exact holds.1
    | false => simp [verdict, bind, Except.bind, pure, Except.pure] at holds

end Expr

theorem Filter.sublist_of_select {filter : Option Expr} {documents selected : List Document}
    (selects : select filter documents = .ok selected) : selected.Sublist documents := by
  cases filter with
  | none =>
    cases selects
    exact .refl documents
  | some filter => exact Expr.selectFrom_sublist selects

def Store.sortBy (keys : List SortKey) (documents : List Document) : List Document :=
  if keys.isEmpty then documents else Insertion.sort (compareByAll keys) documents

/-- The documents that a query chooses among some, in the order in which it shows them. -/
def Query.shown (query : Query) (documents : List Document) : Except AccessError (List Document) :=
  (Filter.select query.filter documents).map fun selected =>
    Store.page query.skip query.limit (Store.sortBy query.sort selected)

namespace Store

theorem sortWith_insertion (keys : List SortKey) (documents : List Document) :
    sortWith .insertion keys documents = .ok (sortBy keys documents) := by
  rw [sortWith, sortBy]
  split <;> rfl

theorem perm_of_sortWith {sorting : Sorting} {keys : List SortKey}
    {documents sorted : List Document} (sorts : sortWith sorting keys documents = .ok sorted) :
    sorted.Perm documents := by
  rw [sortWith] at sorts
  split at sorts
  · cases sorts
    exact .refl _
  · exact sorting.perm sorts

/-- Keys that order the documents leave the sort no choice. -/
theorem sortWith_of_preorders {keys : List SortKey} {documents : List Document}
    (preorders : Preorders (compareByAll keys) documents) (sorting : Sorting) :
    sortWith sorting keys documents =
      .ok (documents.mergeSort fun a b => compareByAll keys a b != .gt) := by
  rw [sortWith]
  split
  · rename_i unsorted
    rw [List.isEmpty_iff.1 unsorted]
    exact congrArg Except.ok
      (List.mergeSort_of_pairwise (List.pairwise_of_forall fun _ _ => rfl)).symm
  · exact sorting.stable preorders

theorem mem_sortBy {keys : List SortKey} {documents : List Document} {document : Document} :
    document ∈ sortBy keys documents ↔ document ∈ documents :=
  (perm_of_sortWith (sortWith_insertion keys documents)).mem_iff

theorem query_eq_sortWith (store : Store) (collection : String) (query : Query)
    (sorting : Sorting) :
    store.query collection query sorting =
      (Filter.select query.filter (store.shelf collection).values).bind fun selected =>
        (sortWith sorting query.sort selected).map fun sorted =>
          (page query.skip query.limit sorted).map (Projection.applyTo query.projection) := by
  rw [Store.query]
  cases query.filter with
  | none => rfl
  | some filter =>
    rw [Filter.select]
    dsimp only
    cases filter.select (store.shelf collection).values <;> rfl

theorem query_eq_shown (store : Store) (collection : String) (query : Query) :
    store.query collection query =
      (query.shown (store.shelf collection).values).map
        (List.map (Projection.applyTo query.projection)) := by
  rw [query_eq_sortWith, Query.shown]
  cases Filter.select query.filter (store.shelf collection).values with
  | error error => rfl
  | ok selected => simp only [Except.bind, Except.map, sortWith_insertion]

/-- Where the keys order the selected documents, every sort gives the same answer. -/
theorem query_of_preorders {store : Store} {collection : String} {query : Query}
    {selected : List Document}
    (chosen : Filter.select query.filter (store.shelf collection).values = .ok selected)
    (preorders : Preorders (compareByAll query.sort) selected) (sorting : Sorting) :
    store.query collection query sorting = store.query collection query := by
  rw [query_eq_sortWith, query_eq_sortWith, chosen]
  simp only [Except.bind, sortWith_of_preorders preorders]

theorem exists_query {query : Query} (readable : ∀ filter ∈ query.filter, filter.Readable)
    (store : Store) (collection : String) :
    ∃ documents, store.query collection query = .ok documents := by
  rw [query_eq_shown, Query.shown]
  cases filter : query.filter with
  | none => exact ⟨_, rfl⟩
  | some expr =>
    rw [Filter.select, (readable expr (by rw [filter]; rfl)).select_eq]
    exact ⟨_, rfl⟩

theorem page_sublist (skip limit : Option Int64) (documents : List Document) :
    (page skip limit documents).Sublist documents := by
  simp only [page]
  cases limit with
  | none => exact List.drop_sublist _ _
  | some limit =>
    dsimp only
    split
    · exact (List.take_sublist _ _).trans (List.drop_sublist _ _)
    · exact List.drop_sublist _ _

theorem mem_of_mem_page {skip limit : Option Int64} {documents : List Document}
    {document : Document} (there : document ∈ page skip limit documents) :
    document ∈ documents :=
  (page_sublist skip limit documents).subset there

theorem mem_query {store : Store} {collection : String} {query : Query}
    {documents : List Document} {document : Document}
    (answered : store.query collection query = .ok documents) (there : document ∈ documents) :
    ∃ stored ∈ (store.shelf collection).values,
      Projection.applyTo query.projection stored = document := by
  rw [query_eq_shown, Query.shown] at answered
  cases selection : Filter.select query.filter (store.shelf collection).values with
  | error error =>
    rw [selection] at answered
    cases answered
  | ok selected =>
    rw [selection] at answered
    cases answered
    obtain ⟨stored, shown, same⟩ := List.mem_map.1 there
    have chosen := mem_sortBy.1 (mem_of_mem_page shown)
    exact ⟨stored, (Filter.sublist_of_select selection).subset chosen, same⟩

section Single

variable {documents : List Document}

theorem sortBy_eq_self (single : documents.length ≤ 1) (keys : List SortKey) :
    sortBy keys documents = documents := by
  rw [sortBy]
  split
  · rfl
  · rcases documents with _ | ⟨document, _ | ⟨second, rest⟩⟩
    · rfl
    · rfl
    · exact absurd single (by simp)

theorem toNat_pos {limit : Int64} (positive : 0 < limit) : 0 < limit.toInt.toNat := by
  have := Int64.lt_iff_toInt_lt.1 positive
  simp only [Int64.toInt_zero] at this
  omega

theorem page_eq_self (single : documents.length ≤ 1) {skip : Option Int64}
    (first : skip.getD 0 = 0) (limit : Option Int64) : page skip limit documents = documents := by
  have start : (skip.map (·.toInt.toNat)).getD 0 = 0 := by
    cases skip with
    | none => rfl
    | some offset =>
      rw [Option.getD_some] at first
      rw [first]
      rfl
  simp only [page, start, List.drop_zero]
  cases limit with
  | none => rfl
  | some limit =>
    dsimp only
    split
    · rename_i positive
      exact List.take_of_length_le (Nat.le_trans single (toNat_pos positive))
    · rfl

end Single

section Identified

variable {store : Store} {collection : String} {filter : Expr} {id : ObjectId}
  {selected : List Document}

theorem Keyed.exists_id? (keyed : store.Keyed) {document : Document}
    (there : document ∈ (store.shelf collection).values) : ∃ own, document.id? = some own := by
  obtain ⟨own, found⟩ := SortedMap.exists_get?_of_mem_values there
  exact ⟨own, keyed collection own document found⟩

theorem Keyed.values_filter_id? (keyed : store.Keyed) (collection : String) (id : ObjectId) :
    (store.shelf collection).values.filter (·.id? = some id) =
      ((store.shelf collection).get? id).toList :=
  SortedMap.values_filter fun own document found => by
    simp [keyed collection own document found]

theorem Keyed.values_filter_hasEqual (keyed : store.Keyed) (collection : String) (id : ObjectId) :
    (store.shelf collection).values.filter (·.hasEqual idKey (.objectId id)) =
      ((store.shelf collection).get? id).toList :=
  SortedMap.values_filter fun own document found =>
    Document.hasEqual_idKey_iff (keyed collection own document found)

/-- A filter that holds only on documents with one identifier selects one document at most. -/
theorem Keyed.length_selected_le (keyed : store.Keyed) (identifies : filter.Identifies id)
    (answered : filter.select (store.shelf collection).values = .ok selected) :
    selected.length ≤ 1 := by
  have chosen := Expr.selectFrom_sublist answered
  have apart := (keyed.pairwise collection).sublist chosen
  have named (document : Document) (there : document ∈ selected) : document.id? = some id := by
    obtain ⟨own, named⟩ := keyed.exists_id? (chosen.subset there)
    obtain ⟨before, after, holds⟩ := Expr.evaluate_of_mem_selectFrom answered there
    rw [named, (Document.hasEqual_idKey_iff named).1 (identifies document before after holds)]
  rcases selected with _ | ⟨first, _ | ⟨second, rest⟩⟩
  · exact Nat.zero_le 1
  · exact Nat.le_refl 1
  · refine absurd ?_ (List.rel_of_pairwise_cons apart List.mem_cons_self)
    rw [named first List.mem_cons_self, named second (List.mem_cons_of_mem _ List.mem_cons_self)]

theorem Keyed.query_eq (keyed : store.Keyed) (identifies : filter.Identifies id) {query : Query}
    (filtered : query.filter = some filter) (first : query.skip.getD 0 = 0)
    (answered : filter.select (store.shelf collection).values = .ok selected) :
    store.query collection query = .ok (selected.map (Projection.applyTo query.projection)) := by
  have single := keyed.length_selected_le identifies answered
  rw [query_eq_shown, Query.shown, filtered, Filter.select, answered]
  simp only [Except.map, sortBy_eq_self single, page_eq_self single first]

end Identified

end Store

end DocumentQuery
