import DocumentQuery.Proofs.Filter.Conjunction
import DocumentQuery.Proofs.Store.Answers
import DocumentQuery.Proofs.Store.Operations
import DocumentQuery.Value.Equality
import Mathlib.Data.List.Sort

/-! Documents by their identifiers. A store finds them by the keys they lie under, or by a query
that reads all documents of a collection and compares their identifiers. Both give the documents
in ascending order, so they give the same list as soon as they give the same documents.
-/

set_option autoImplicit false

namespace DocumentQuery

/-! Keeping to the order of the identifiers, no document comes before itself, and no two come
before each other. -/

instance : Std.Irrefl Document.Precedes where
  irrefl document := by
    rintro ⟨first, second, named, named', below⟩
    rw [named] at named'
    cases named'
    exact absurd below (by simp [Std.ReflCmp.compare_self])

instance : Std.Antisymm Document.Precedes where
  antisymm a b := by
    rintro ⟨first, second, named, named', below⟩ ⟨_, _, again, again', above⟩
    rw [named'] at again
    cases again
    rw [named] at again'
    cases again'
    rw [Std.OrientedCmp.gt_of_lt above] at below
    cases below

namespace Store

variable {store : Store} {collection : String} {ids : List ObjectId}

theorem Keyed.pairwise_get (keyed : store.Keyed)
    (ascending : ids.Pairwise fun a b => compare a b = .lt) (collection : String) :
    (store.get collection ids none).Pairwise Document.Precedes := by
  rw [get_eq_filterMap]
  refine ascending.filterMap (store.contents collection) fun first second below a held b held' => ?_
  exact ⟨first, second, keyed collection first a held, keyed collection second b held', below⟩

theorem holds_among_iff {document : Document} {own : ObjectId} (named : document.id? = some own) :
    (Expr.compare idKey .among (.array (ids.map .objectId))).holds document = true ↔ own ∈ ids := by
  have meant : (Expr.compare idKey .among (.array (ids.map .objectId))).holds document =
      (ids.map Value.objectId).any (document.hasEqual idKey) := rfl
  simp [meant, Document.hasEqual_idKey_iff named]

theorem Keyed.filter_among (keyed : store.Keyed)
    (ascending : ids.Pairwise fun a b => compare a b = .lt) (collection : String) :
    (store.shelf collection).values.filter
        (Expr.compare idKey .among (.array (ids.map .objectId))).holds =
      store.get collection ids none := by
  have values := pairwise_precedes (keyed collection)
  refine (values.filter _).eq_of_mem_iff (keyed.pairwise_get ascending collection)
    fun document => ?_
  rw [List.mem_filter, mem_values_iff, get_eq_filterMap, List.mem_filterMap]
  constructor
  · rintro ⟨⟨own, held⟩, asked⟩
    exact ⟨own, (holds_among_iff (keyed collection own document held)).1 asked, held⟩
  · rintro ⟨own, asked, held⟩
    exact ⟨⟨own, held⟩, (holds_among_iff (keyed collection own document held)).2 asked⟩

/-- In every state that a store comes to, looking documents up by ascending identifiers and
querying for these identifiers, without a sort or a page, give the same documents, in the same
order and with the same selection. -/
theorem query_among (reachable : store.Reachable) (collection : String)
    (ascending : ids.Pairwise fun a b => compare a b = .lt) (projection : Option Projection)
    (populate : List Directive) :
    store.query collection
        { filter := some (.compare idKey .among (.array (ids.map .objectId))),
          projection, populate } =
      .ok (store.get collection ids projection) := by
  have readable : (Expr.compare idKey .among (.array (ids.map .objectId))).Readable := .compare rfl
  simp only [Store.query, readable.select_eq, sortWith_nil, bind, Except.bind, pure, Except.pure]
  rw [reachable.keyed.filter_among ascending collection]
  rw [get_eq_filterMap]
  rfl

def roster : List Operation :=
  [.insert "user" [[(idKey, .objectId ⟨3⟩)], [("name", .string "b"), (idKey, .objectId ⟨2⟩)]],
    .insert "user" [[(idKey, .objectId ⟨1⟩)]], .delete "user" [⟨1⟩],
    .insert "user" [[(idKey, .objectId ⟨2⟩)]]]

/-- Three users are asked for without their names, and two are there. -/
theorem query_among_roster :
    (empty.perform roster).Reachable ∧
      ([⟨1⟩, ⟨2⟩, ⟨3⟩] : List ObjectId).Pairwise (fun a b => compare a b = .lt) ∧
      (empty.perform roster).query "user"
          { filter := some (.compare idKey .among
              (.array [.objectId ⟨1⟩, .objectId ⟨2⟩, .objectId ⟨3⟩])),
            projection := some ⟨[("name", false)]⟩ } =
        .ok [[(idKey, .objectId ⟨2⟩)], [(idKey, .objectId ⟨3⟩)]] := by
  have reachable := reachable_perform .empty roster
  have ascending : ([⟨1⟩, ⟨2⟩, ⟨3⟩] : List ObjectId).Pairwise (fun a b => compare a b = .lt) := by
    decide
  have found : (empty.perform roster).get "user" [⟨1⟩, ⟨2⟩, ⟨3⟩] (some ⟨[("name", false)]⟩) =
      [[(idKey, .objectId ⟨2⟩)], [(idKey, .objectId ⟨3⟩)]] := by decide +kernel
  refine ⟨reachable, ascending, ?_⟩
  rw [← found]
  exact query_among reachable "user" ascending (some ⟨[("name", false)]⟩) []

end Store

end DocumentQuery
