import DocumentQuery.Proofs.Projection.Erasure
import DocumentQuery.Proofs.Projection.Identifier
import DocumentQuery.Proofs.Store.Answers
import Mathlib.Data.List.Forall2

/-! Stores that are alike but for what lies under one key. A query that neither filters nor
sorts by the key chooses the same documents of both, in the same order; what a selection
that excludes the key shows of them is the same as well.
-/

set_option autoImplicit false

namespace DocumentQuery

/-- Two results are the same error, or values that are related. -/
inductive Corresponds {α β : Type} (related : α → β → Prop) :
    Except AccessError α → Except AccessError β → Prop
  | ok {a : α} {b : β} : related a b → Corresponds related (.ok a) (.ok b)
  | error (error : AccessError) : Corresponds related (.error error) (.error error)

theorem Corresponds.map {α β α' β' : Type} {related : α → β → Prop} {related' : α' → β' → Prop}
    {first : Except AccessError α} {second : Except AccessError β} {f : α → α'} {g : β → β'}
    (results : Corresponds related first second)
    (each : ∀ a b, related a b → related' (f a) (g b)) :
    Corresponds related' (first.map f) (second.map g) := by
  cases results with
  | ok values => exact .ok (each _ _ values)
  | error error => exact .error error

theorem Corresponds.refl {α : Type} {related : α → α → Prop} (reflexive : ∀ a, related a a)
    (result : Except AccessError α) : Corresponds related result result := by
  cases result with
  | ok a => exact .ok (reflexive a)
  | error error => exact .error error

theorem Corresponds.eq {α : Type} {first second : Except AccessError α}
    (results : Corresponds Eq first second) : first = second := by
  cases results with
  | ok same => rw [same]
  | error error => rfl

mutual

def Expr.fields : Expr → List String
  | .all exprs | .any exprs => fieldsOf exprs
  | .exist field _ | .compare field _ _ => [field]

def Expr.fieldsOf : List Expr → List String
  | [] => []
  | expr :: rest => expr.fields ++ fieldsOf rest

end

def Query.fields (query : Query) : List String :=
  (query.filter.map Expr.fields).getD [] ++ query.sort.map (·.field)

/-- The query chooses documents by what lies under a key. -/
def Query.Reads (query : Query) (key : String) : Prop :=
  ∃ field ∈ query.fields, (Path.ofText field).head? = some key

instance (query : Query) (key : String) : Decidable (query.Reads key) :=
  inferInstanceAs (Decidable (∃ field ∈ query.fields, (Path.ofText field).head? = some key))

section Documents

variable {key : String} {a b : Document}

theorem Document.valuesAt_of_alike (alike : a.erase key = b.erase key) {field : String}
    (elsewhere : (Path.ofText field).head? ≠ some key) :
    a.valuesAt (Path.ofText field) = b.valuesAt (Path.ofText field) := by
  rw [← valuesAt_erase (Path.ofText_ne_nil field) elsewhere a, alike,
    valuesAt_erase (Path.ofText_ne_nil field) elsewhere b]

namespace Expr

theorem evaluateComparison_congr {field : String} (same : a.candidates field = b.candidates field)
    (cache : PatternCache) (comparison : Comparison) (value : Value) :
    evaluateComparison a cache field comparison value =
      evaluateComparison b cache field comparison value := by
  have equal : a.hasEqual field = b.hasEqual field := by
    funext value
    rw [Document.hasEqual, same, Document.hasEqual]
  have ordered : a.hasOrdered field value = b.hasOrdered field value := by
    funext accepts
    rw [Document.hasOrdered, same, Document.hasOrdered]
  have member : a.hasMember field value = b.hasMember field value := by
    cases value <;> simp only [Document.hasMember, equal]
  have matched : matchPattern a field cache value = matchPattern b field cache value := by
    cases value <;> simp only [matchPattern, Document.hasMatch, same]
  cases comparison <;> simp only [evaluateComparison, equal, ordered, member, matched]

mutual

/-- An expression that does not read a key has one verdict on documents that are alike but for what
lies under it. -/
theorem evaluate_of_alike (alike : a.erase key = b.erase key) (cache : PatternCache) (expr : Expr)
    (unread : ∀ field ∈ expr.fields, (Path.ofText field).head? ≠ some key) :
    expr.evaluate a cache = expr.evaluate b cache := by
  match expr with
  | .all exprs =>
    rw [evaluate, evaluate]
    exact evaluateAll_of_alike alike cache exprs (by rwa [fields] at unread)
  | .any exprs =>
    rw [evaluate, evaluate]
    exact evaluateAny_of_alike alike cache exprs (by rwa [fields] at unread)
  | .exist field present =>
    have same := Document.valuesAt_of_alike alike (unread field (by simp [fields]))
    rw [evaluate, evaluate, Document.candidates, same, Document.candidates]
  | .compare field comparison value =>
    have same := Document.valuesAt_of_alike alike (unread field (by simp [fields]))
    rw [evaluate, evaluate]
    exact evaluateComparison_congr (by rw [Document.candidates, same, Document.candidates]) _ _ _

theorem evaluateAll_of_alike (alike : a.erase key = b.erase key) (cache : PatternCache)
    (exprs : List Expr)
    (unread : ∀ field ∈ fieldsOf exprs, (Path.ofText field).head? ≠ some key) :
    evaluateAll a cache exprs = evaluateAll b cache exprs := by
  match exprs with
  | [] => rfl
  | expr :: rest =>
    obtain ⟨first, others⟩ := List.forall_mem_append.1 (by rwa [fieldsOf] at unread)
    rw [evaluateAll, evaluateAll, evaluate_of_alike alike cache expr first]
    rcases expr.evaluate b cache with error | ⟨_ | _, next⟩
    · rfl
    · rfl
    · exact evaluateAll_of_alike alike next rest others

theorem evaluateAny_of_alike (alike : a.erase key = b.erase key) (cache : PatternCache)
    (exprs : List Expr)
    (unread : ∀ field ∈ fieldsOf exprs, (Path.ofText field).head? ≠ some key) :
    evaluateAny a cache exprs = evaluateAny b cache exprs := by
  match exprs with
  | [] => rfl
  | expr :: rest =>
    obtain ⟨first, others⟩ := List.forall_mem_append.1 (by rwa [fieldsOf] at unread)
    rw [evaluateAny, evaluateAny, evaluate_of_alike alike cache expr first]
    rcases expr.evaluate b cache with error | ⟨_ | _, next⟩
    · rfl
    · exact evaluateAny_of_alike alike next rest others
    · rfl

end

end Expr

theorem Store.compareByAll_of_alike {c d : Document} (alike : a.erase key = b.erase key)
    (alike' : c.erase key = d.erase key) {keys : List SortKey}
    (unread : ∀ sortKey ∈ keys, (Path.ofText sortKey.field).head? ≠ some key) :
    compareByAll keys a c = compareByAll keys b d := by
  have each : ∀ sortKey ∈ keys, compareBy sortKey a c = compareBy sortKey b d := by
    intro sortKey there
    simp only [compareBy, Document.valueAt?,
      Document.valuesAt_of_alike alike (unread sortKey there),
      Document.valuesAt_of_alike alike' (unread sortKey there)]
  rw [compareByAll, List.map_congr_left each, compareByAll]

end Documents

section Answers

variable {key : String} {related : Document → Document → Prop} {documents others : List Document}

theorem Expr.selectFrom_corresponds {expr : Expr}
    (same : ∀ a b, related a b → ∀ cache, expr.evaluate a cache = expr.evaluate b cache)
    (alike : List.Forall₂ related documents others) (cache : PatternCache) :
    Corresponds (List.Forall₂ related) (expr.selectFrom cache documents)
      (expr.selectFrom cache others) := by
  induction alike generalizing cache with
  | nil => exact .ok .nil
  | @cons a b _ _ pair _ ih =>
    rw [selectFrom, selectFrom, same a b pair cache]
    rcases expr.evaluate b cache with error | ⟨holds, next⟩
    · exact .error error
    · refine (ih next).map fun selected chosen later => ?_
      cases holds with
      | true => exact .cons pair later
      | false => exact later

section Insertion

variable {order : Document → Document → Ordering}
  (same : ∀ a b c d, related a b → related c d → order a c = order b d)

include same

theorem Insertion.insert_forall₂ {a b : Document} (pair : related a b)
    (alike : List.Forall₂ related documents others) :
    List.Forall₂ related (insert order a documents) (insert order b others) := by
  induction alike with
  | nil => exact .cons pair .nil
  | cons next rest ih =>
    rw [insert, insert, same _ _ _ _ pair next]
    split
    · exact .cons next ih
    · exact .cons pair (.cons next rest)

theorem Insertion.sort_forall₂ (alike : List.Forall₂ related documents others) :
    List.Forall₂ related (sort order documents) (sort order others) := by
  have folds {sorted sorted' : List Document} (before : List.Forall₂ related sorted sorted') :
      List.Forall₂ related (documents.foldl (fun sorted a => insert order a sorted) sorted)
        (others.foldl (fun sorted b => insert order b sorted) sorted') := by
    induction alike generalizing sorted sorted' with
    | nil => exact before
    | cons pair _ ih => exact ih (insert_forall₂ same pair before)
  exact List.rel_reverse (folds .nil)

end Insertion

/-- Sorting takes related documents to the same places when it compares them alike. -/
theorem Store.sortBy_forall₂ {keys : List SortKey}
    (same : ∀ a b c d, related a b → related c d → compareByAll keys a c = compareByAll keys b d)
    (alike : List.Forall₂ related documents others) :
    List.Forall₂ related (sortBy keys documents) (sortBy keys others) := by
  rw [sortBy, sortBy]
  split
  · exact alike
  · exact Insertion.sort_forall₂ same alike

theorem Store.page_forall₂ (skip limit : Option Int64)
    (alike : List.Forall₂ related documents others) :
    List.Forall₂ related (page skip limit documents) (page skip limit others) := by
  have rest := List.forall₂_drop ((skip.map (·.toInt.toNat)).getD 0) alike
  cases limit with
  | none => exact rest
  | some limit =>
    simp only [page]
    split
    · exact List.forall₂_take _ rest
    · exact rest

/-- A query that does not read a key chooses alike among documents that are alike but for what lies
under it. -/
theorem Query.shown_corresponds {query : Query} (unread : ¬ query.Reads key)
    (alike : ∀ a b, related a b → a.erase key = b.erase key)
    (documents_alike : List.Forall₂ related documents others) :
    Corresponds (List.Forall₂ related) (query.shown documents) (query.shown others) := by
  have sorting : ∀ a b c d, related a b → related c d →
      Store.compareByAll query.sort a c = Store.compareByAll query.sort b d :=
    fun a b c d first second => Store.compareByAll_of_alike (alike a b first) (alike c d second)
      fun sortKey there starts =>
        unread ⟨sortKey.field, List.mem_append_right _ (List.mem_map_of_mem there), starts⟩
  have selecting : Corresponds (List.Forall₂ related) (Filter.select query.filter documents)
      (Filter.select query.filter others) := by
    cases filtered : query.filter with
    | none => exact .ok documents_alike
    | some filter =>
      refine Expr.selectFrom_corresponds (fun a b pair cache => ?_) documents_alike []
      refine Expr.evaluate_of_alike (alike a b pair) cache filter fun field there starts => ?_
      exact unread ⟨field, List.mem_append_left _ (by rwa [filtered]), starts⟩
  exact selecting.map fun _ _ chosen => Store.page_forall₂ _ _ (Store.sortBy_forall₂ sorting chosen)

end Answers

/-- The documents have one identifier, and they are alike but for what lies under a key. -/
def Document.Twins (key : String) (a b : Document) : Prop :=
  a.erase key = b.erase key ∧ a.get? idKey = b.get? idKey

namespace Store

structure AlikeBut (collection key : String) (first second : Store) : Prop where
  elsewhere : ∀ other, other ≠ collection → first.shelf other = second.shelf other
  here : List.Forall₂ (fun a b => a.1 = b.1 ∧ a.2.erase key = b.2.erase key)
    (first.shelf collection).entries (second.shelf collection).entries

namespace AlikeBut

variable {collection key target : String} {first second : Store}

theorem get?_shelf (alike : AlikeBut collection key first second) (id : ObjectId) :
    ((first.shelf collection).get? id).map (·.erase key) =
      ((second.shelf collection).get? id).map (·.erase key) := by
  have entries := alike.here
  simp only [SortedMap.get?]
  generalize (first.shelf collection).entries = documents,
    (second.shelf collection).entries = others at entries
  induction entries with
  | nil => rfl
  | cons pair _ ih =>
    rw [List.find?_cons, List.find?_cons, pair.1]
    split
    · exact congrArg some pair.2
    · exact ih

theorem get_eq (alike : AlikeBut collection key first second) {projection : Option Projection}
    (hides : target = collection → ∀ document : Document,
      Projection.applyTo projection (document.erase key) = Projection.applyTo projection document)
    (ids : List ObjectId) : first.get target ids projection = second.get target ids projection := by
  rw [get, get]
  by_cases same : target = collection
  · subst same
    have shows : Projection.applyTo projection ∘ (·.erase key) = Projection.applyTo projection :=
      funext (hides rfl)
    simp only [List.map_filterMap]
    congr 1
    funext id
    rw [← shows, ← Option.map_map, alike.get?_shelf id, Option.map_map]
  · rw [alike.elsewhere target same]

theorem twins (alike : AlikeBut collection key first second) (keyed : first.Keyed)
    (keyed' : second.Keyed) (target : String) :
    List.Forall₂ (Document.Twins key) (first.shelf target).values (second.shelf target).values := by
  by_cases same : target = collection
  · subst same
    obtain ⟨lengths, pairs⟩ := List.forall₂_iff_zip.1 alike.here
    rw [SortedMap.values, SortedMap.values, List.forall₂_map_left_iff, List.forall₂_map_right_iff]
    refine List.forall₂_iff_zip.2 ⟨lengths, fun {a b} there => ?_⟩
    obtain ⟨here, here'⟩ := List.of_mem_zip there
    obtain ⟨one, erased⟩ := pairs there
    refine ⟨erased, ?_⟩
    rw [Document.get?_idKey_of_id? (keyed target a.1 a.2 (SortedMap.get?_of_mem here)),
      Document.get?_idKey_of_id? (keyed' target b.1 b.2 (SortedMap.get?_of_mem here')), one]
  · rw [alike.elsewhere target same]
    exact List.forall₂_same.2 fun _ _ => ⟨rfl, rfl⟩

variable {query : Query}

theorem shown_corresponds (alike : AlikeBut collection key first second) (keyed : first.Keyed)
    (keyed' : second.Keyed) (unread : target = collection → ¬ query.Reads key) :
    Corresponds (List.Forall₂ (Document.Twins key)) (query.shown (first.shelf target).values)
      (query.shown (second.shelf target).values) := by
  by_cases same : target = collection
  · exact Query.shown_corresponds (unread same) (fun _ _ twins => twins.1)
      (alike.twins keyed keyed' target)
  · rw [alike.elsewhere target same]
    exact .refl (fun _ => List.forall₂_same.2 fun _ _ => ⟨rfl, rfl⟩) _

theorem query_elsewhere (alike : AlikeBut collection key first second)
    (apart : target ≠ collection) (query : Query) :
    first.query target query = second.query target query := by
  rw [Store.query, alike.elsewhere target apart, Store.query]

theorem query_eq (alike : AlikeBut collection key first second) (keyed : first.Keyed)
    (keyed' : second.Keyed) (unread : target = collection → ¬ query.Reads key)
    (hides : target = collection → ∀ document : Document,
      Projection.applyTo query.projection (document.erase key) =
        Projection.applyTo query.projection document) :
    first.query target query = second.query target query := by
  by_cases same : target = collection
  · rw [Store.query_eq_shown, Store.query_eq_shown]
    refine ((alike.shown_corresponds keyed keyed' unread).map fun chosen others twins => ?_).eq
    have shown : List.Forall₂ Eq (chosen.map (Projection.applyTo query.projection))
        (others.map (Projection.applyTo query.projection)) := by
      rw [List.forall₂_map_left_iff, List.forall₂_map_right_iff]
      refine twins.imp fun a b pair => ?_
      rw [← hides same a, pair.1, hides same b]
    rwa [List.forall₂_eq_eq_eq] at shown
  · exact alike.query_elsewhere same query

/-- A query that does not read the key has answers that correspond, even if it shows the key. -/
theorem query_corresponds (alike : AlikeBut collection key first second) (keyed : first.Keyed)
    (keyed' : second.Keyed) (unread : target = collection → ¬ query.Reads key)
    (whole : query.projection = none) :
    Corresponds (List.Forall₂ (Document.Twins key)) (first.query target query)
      (second.query target query) := by
  rw [Store.query_eq_shown, Store.query_eq_shown, whole]
  refine (alike.shown_corresponds keyed keyed' unread).map fun chosen others twins => ?_
  rwa [List.forall₂_map_left_iff, List.forall₂_map_right_iff]

end AlikeBut

end Store

end DocumentQuery
