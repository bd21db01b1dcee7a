import DocumentQuery.Proofs.Population.Agreement
import DocumentQuery.Proofs.Population.Remainder

/-! Repeated population. What is inserted at a path lies behind its last key, where no population of
the path looks for identifiers. So a second one finds the identifiers that the first has left, none
of which can be resolved on the same store: it asks for them again, if there are any, and changes
nothing.
-/

set_option autoImplicit false

namespace DocumentQuery.Population

section Distinct

variable (keeps : ObjectId → Bool)

theorem foldl_distinct_filter (seen ids : List ObjectId) :
    (ids.filter keeps).foldl (fun seen id => if id ∈ seen then seen else seen ++ [id])
        (seen.filter keeps) =
      (ids.foldl (fun seen id => if id ∈ seen then seen else seen ++ [id]) seen).filter keeps := by
  induction ids generalizing seen with
  | nil => rfl
  | cons id rest ih =>
    rw [List.foldl_cons, ← ih]
    by_cases kept : keeps id = true
    · rw [List.filter_cons_of_pos kept, List.foldl_cons]
      congr 1
      by_cases again : id ∈ seen
      · rw [if_pos again, if_pos (List.mem_filter.2 ⟨again, kept⟩)]
      · rw [if_neg again, if_neg fun there => again (List.mem_filter.1 there).1,
          List.filter_append, List.filter_singleton, kept]
        rfl
    · rw [List.filter_cons_of_neg kept]
      congr 1
      split
      · rfl
      · rw [List.filter_append, List.filter_singleton, Bool.eq_false_iff.2 kept]
        exact (List.append_nil _).symm

theorem distinct_filter (ids : List ObjectId) :
    distinct (ids.filter keeps) = (distinct ids).filter keeps :=
  foldl_distinct_filter keeps [] ids

end Distinct

/-- The document that can be put in the place of an identifier: the selected part of the stored one,
if it keeps the identifier. -/
def usable? (store : Store) (target : String) (projection : Option Projection) (id : ObjectId) :
    Option Document :=
  (referent? store target projection id).filter (·.id?.isSome)

/-- The identifiers found at a path for which there is no document to put in their place. -/
def pending (store : Store) (documents : List Document) (path : Path) (target : String)
    (projection : Option Projection) : List ObjectId :=
  (gathered documents path).filter fun id => (usable? store target projection id).isNone

theorem gathered_resolveAt (referent? : ObjectId → Option Document) (locale : Option String)
    (documents : List Document) (path : Path) :
    gathered (documents.map (·.resolveAt referent? locale path)) path =
      (gathered documents path).filter fun id => (referent? id).isNone := by
  rw [gathered, gathered, ← distinct_filter, List.flatMap_map, List.filter_flatMap]
  exact congrArg (fun read => distinct (documents.flatMap read))
    (funext (Document.referencesAt_resolveAt referent? locale path))

theorem resolveAt_none (locale : Option String) (path : Path) (document : Document) :
    document.resolveAt (fun _ => none) locale path = document := by
  have same : (·.mapIdentifiers (Value.resolved (fun _ => none) locale)) = @id Value :=
    funext Value.mapIdentifiers_objectId
  rw [Document.resolveAt_eq_modifyAt, same, Document.modifyAt_id]

section Second

variable {store : Store} (documents : List Document) (path : Path) (target : String)
  (projection : Option Projection) (locale : Option String)

def populatedIn (store : Store) (documents : List Document) (path : Path) (target : String)
    (projection : Option Projection) (locale : Option String) : List Document :=
  documents.map
    (·.resolveAt (referentsIn store documents path target projection).get? locale path)

/-- A population leaves the identifiers that are pending. -/
theorem gathered_populatedIn (keyed : store.Keyed) :
    gathered (populatedIn store documents path target projection locale) path =
      pending store documents path target projection := by
  rw [populatedIn, gathered_resolveAt, pending]
  refine List.filter_congr fun id asked => ?_
  rw [get?_referentsIn_eq keyed, if_pos asked]
  rfl

theorem referentsIn_populatedIn (keyed : store.Keyed) :
    referentsIn store (populatedIn store documents path target projection locale) path target
      projection = .empty := by
  -- The store may still answer, but with documents whose selection dropped the identifier.
  have nameless : ∀ document ∈ store.get target (pending store documents path target projection)
      projection, document.id?.map (·, document) = none := by
    intro document there
    obtain ⟨id, asked, stored, under, rfl⟩ := Store.mem_get.1 there
    have unusable := (List.mem_filter.1 asked).2
    rw [usable?, referent?, under, Option.map_some, Option.filter_some] at unusable
    cases named : (Projection.applyTo projection stored).id? with
    | none => rfl
    | some own => simp [named] at unusable
  rw [referentsIn, gathered_populatedIn _ _ _ _ _ keyed, referentsOf,
    List.filterMap_eq_nil_iff.2 nameless]
  rfl

/-- Population is idempotent. On the same store a second one succeeds and changes nothing; it asks
for the pending identifiers in one call, and makes no call when there are none. -/
theorem shallow_twice (reachable : store.Reachable) :
    ∃ count expanded,
      (shallow noted documents path target projection locale).run ⟨store, []⟩ =
        (({ documents := expanded, outcome := .ok count },
          ⟨store, callsOf documents path target projection⟩) : ShallowRun × Observed Store) ∧
      (shallow noted expanded path target projection locale).run ⟨store, []⟩ =
        (({ documents := expanded, outcome := .ok 0 },
          ⟨store, if pending store documents path target projection = [] then []
            else [.get target (pending store documents path target projection) projection]⟩) :
          ShallowRun × Observed Store) := by
  have left := gathered_populatedIn documents path target projection locale reachable.keyed
  have found := referentsIn_populatedIn documents path target projection locale reachable.keyed
  have unchanged : (populatedIn store documents path target projection locale).map
      (·.resolveAt (SortedMap.empty : Referents).get? locale path) =
        populatedIn store documents path target projection locale :=
    (List.map_congr_left fun document _ => resolveAt_none locale path document).trans
      (List.map_id _)
  have first := run_shallow_of_ok locale (@fetch_noted store documents path target projection [])
  have second := run_shallow_of_ok locale (@fetch_noted store
    (populatedIn store documents path target projection locale) path target projection [])
  rw [List.append_nil] at first second
  rw [found, unchanged, callsOf, left] at second
  simp only [List.isEmpty_iff] at second
  exact ⟨_, _, first, second⟩

end Second

def retagged : Document :=
  [("tags", .array [.objectId ⟨2⟩, .array [.objectId ⟨1⟩], .objectId ⟨1⟩, .objectId ⟨2⟩])]

/-- The second population asks once more for the identifier that is not stored. -/
theorem shallow_twice_tags : users.Reachable ∧
    ∃ count expanded,
      (shallow noted [retagged] ["tags"] "user" none (some "en")).run ⟨users, []⟩ =
        (({ documents := expanded, outcome := .ok count },
          ⟨users, [.get "user" [⟨2⟩, ⟨1⟩] none]⟩) : ShallowRun × Observed Store) ∧
      (shallow noted expanded ["tags"] "user" none (some "en")).run ⟨users, []⟩ =
        (({ documents := expanded, outcome := .ok 0 },
          ⟨users, [.get "user" [⟨2⟩] none]⟩) : ShallowRun × Observed Store) := by
  have reachable : users.Reachable := .insert "user" [user] .empty
  exact ⟨reachable, shallow_twice [retagged] ["tags"] "user" none (some "en") reachable⟩

end DocumentQuery.Population
