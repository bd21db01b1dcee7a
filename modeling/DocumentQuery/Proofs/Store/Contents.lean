import DocumentQuery.Store

/-! What a store holds. Each operation is described by the look-ups it changes; from
this, every state that a store comes to keeps each document under its own identifier.
-/

set_option autoImplicit false

namespace DocumentQuery

namespace SortedMap

variable {κ α : Type} [Ord κ]

theorem mem_values_of_get? {map : SortedMap κ α} {key : κ} {value : α}
    (found : map.get? key = some value) : value ∈ map.values := by
  obtain ⟨entry, there, rfl⟩ := Option.map_eq_some_iff.1 found
  exact List.mem_map.2 ⟨entry, List.mem_of_find?_eq_some there, rfl⟩

theorem get?_of_mem [Std.TransOrd κ] {map : SortedMap κ α} {key : κ} {value : α}
    (there : (key, value) ∈ map.entries) : map.get? key = some value := by
  obtain ⟨entries, ascending⟩ := map
  simp only [get?] at *
  induction entries with
  | nil => exact absurd there List.not_mem_nil
  | cons first rest ih =>
    obtain ⟨above, ascending⟩ := List.pairwise_cons.1 ascending
    rcases List.mem_cons.1 there with rfl | there
    · simp [Std.ReflCmp.compare_self]
    · have apart : (compare key first.1 == .eq) = false := by
        rw [Std.OrientedCmp.gt_of_lt (above _ there)]
        rfl
      rw [List.find?_cons, apart]
      exact ih ascending there

theorem exists_get?_of_mem_values [Std.TransOrd κ] {map : SortedMap κ α} {value : α}
    (there : value ∈ map.values) : ∃ key, map.get? key = some value := by
  obtain ⟨⟨key, _⟩, entry, rfl⟩ := List.mem_map.1 there
  exact ⟨key, get?_of_mem entry⟩

theorem values_filter [Std.TransOrd κ] [Std.LawfulEqOrd κ] {map : SortedMap κ α} {key : κ}
    {accepts : α → Bool}
    (own : ∀ other value, map.get? other = some value → (accepts value = true ↔ other = key)) :
    map.values.filter accepts = (map.get? key).toList := by
  have own' : ∀ entry ∈ map.entries, accepts entry.2 = true ↔ entry.1 = key :=
    fun entry there => own entry.1 entry.2 (get?_of_mem there)
  clear own
  obtain ⟨entries, ascending⟩ := map
  simp only [values, get?]
  induction entries with
  | nil => rfl
  | cons first rest ih =>
    obtain ⟨above, ascending⟩ := List.pairwise_cons.1 ascending
    rw [List.map_cons, List.find?_cons]
    by_cases here : first.1 = key
    · have others : (rest.map (·.2)).filter accepts = [] := by
        rw [List.filter_eq_nil_iff]
        intro value there accepted
        obtain ⟨entry, listed, rfl⟩ := List.mem_map.1 there
        have same := (own' entry (List.mem_cons_of_mem _ listed)).1 accepted
        have below := above entry listed
        rw [same, here] at below
        exact absurd below (by simp [Std.ReflCmp.compare_self])
      simp [(own' first List.mem_cons_self).2 here, others, here]
    · have apart : (compare key first.1 == .eq) = false := by
        rw [beq_eq_false_iff_ne]
        exact fun equal => here (Std.LawfulEqOrd.eq_of_compare equal).symm
      have refused : ¬ accepts first.2 = true := fun accepted =>
        here ((own' first List.mem_cons_self).1 accepted)
      rw [List.filter_cons_of_neg refused, apart]
      exact ih ascending fun entry there => own' entry (List.mem_cons_of_mem _ there)

theorem get?_insert [Std.TransOrd κ] [Std.LawfulEqOrd κ] [DecidableEq κ] (map : SortedMap κ α)
    (key other : κ) (value : α) :
    (map.insert key value).get? other = if key = other then some value else map.get? other := by
  split
  · rename_i same
    rw [← same, get?_insert_self]
  · rename_i apart
    rw [get?_insert_of_ne _ _ apart]

end SortedMap

namespace Store

theorem shelf_withShelf (store : Store) (collection other : String) (shelf : Shelf) :
    (store.withShelf collection shelf).shelf other =
      if collection = other then shelf else store.shelf other := by
  simp only [Store.shelf, withShelf, SortedMap.get?_insert]
  split <;> rfl

theorem get?_withShelf_insert (store : Store) (collection other : String) (id key : ObjectId)
    (document : Document) :
    ((store.withShelf collection ((store.shelf collection).insert id document)).shelf other).get?
        key =
      if collection = other ∧ id = key then some document else (store.shelf other).get? key := by
  rw [shelf_withShelf]
  by_cases here : collection = other
  · subst here
    simp [SortedMap.get?_insert]
  · simp [here]

theorem shelf_createCollection (store : Store) (collection other : String) :
    (store.createCollection collection).shelf other = store.shelf other := by
  rw [createCollection, shelf_withShelf]
  split
  · rename_i same
    rw [same]
  · rfl

theorem shelf_dropCollection {store after : Store} {collection : String} (other : String)
    (h : store.dropCollection collection = .ok after) :
    after.shelf other = if collection = other then .empty else store.shelf other := by
  rw [dropCollection] at h
  split at h
  · cases h
    simp only [Store.shelf, SortedMap.get?_erase, Std.LawfulEqCmp.compare_eq_iff_eq]
    split <;> rfl
  · cases h

theorem get?_insertAll {collection : String} {shelf after : Shelf} {documents : List Document}
    (h : insertAll collection shelf documents = .ok after) (id : ObjectId) (document : Document) :
    after.get? id = some document ↔
      shelf.get? id = some document ∨ (document ∈ documents ∧ document.id? = some id) := by
  induction documents generalizing shelf with
  | nil =>
    cases h
    simp
  | cons first rest ih =>
    rw [insertAll] at h
    split at h
    · cases h
    · rename_i key named
      split at h
      · cases h
      · rename_i fresh
        have fresh : shelf.get? key = none := by simpa [SortedMap.contains] using fresh
        rw [ih h, SortedMap.get?_insert, List.mem_cons]
        by_cases same : key = id
        · subst same
          rw [if_pos rfl, fresh]
          constructor
          · rintro (this | ⟨there, own⟩)
            · cases this
              exact .inr ⟨.inl rfl, named⟩
            · exact .inr ⟨.inr there, own⟩
          · rintro (impossible | ⟨rfl | there, own⟩)
            · cases impossible
            · exact .inl rfl
            · exact .inr ⟨there, own⟩
        · rw [if_neg same]
          constructor
          · rintro (old | ⟨there, own⟩)
            · exact .inl old
            · exact .inr ⟨.inr there, own⟩
          · rintro (old | ⟨rfl | there, own⟩)
            · exact .inl old
            · rw [named] at own
              cases own
              exact absurd rfl same
            · exact .inr ⟨there, own⟩

theorem insert_ok_iff {store after : Store} {collection : String} {documents : List Document} :
    store.insert collection documents = (.ok (), after) ↔
      ∃ shelf, insertAll collection (store.shelf collection) documents = .ok shelf ∧
        after = store.withShelf collection shelf := by
  rw [insert]
  cases insertAll collection (store.shelf collection) documents with
  | error error => simp
  | ok shelf => simp [eq_comm]

theorem get?_eraseAll (shelf : Shelf) (ids : List ObjectId) (id : ObjectId) :
    (ids.foldl (fun shelf id => shelf.erase id) shelf).get? id =
      if id ∈ ids then none else shelf.get? id := by
  induction ids generalizing shelf with
  | nil => simp
  | cons first rest ih =>
    simp only [List.foldl_cons, ih, SortedMap.get?_erase, Std.LawfulEqCmp.compare_eq_iff_eq]
    by_cases later : id ∈ rest
    · simp [later]
    · by_cases same : first = id
      · simp [same]
      · simp [later, same, Ne.symm same]

theorem get?_shelf_delete (store : Store) (collection other : String) (ids : List ObjectId)
    (id : ObjectId) :
    ((store.delete collection ids).shelf other).get? id =
      if collection = other ∧ id ∈ ids then none else (store.shelf other).get? id := by
  rw [delete]
  cases found : store.collections.get? collection with
  | none =>
    have bare : store.shelf collection = .empty := by simp [Store.shelf, found]
    by_cases both : collection = other ∧ id ∈ ids
    · rw [if_pos both, ← both.1]
      simp [bare]
    · rw [if_neg both]
  | some shelf =>
    have here : store.shelf collection = shelf := by simp [Store.shelf, found]
    simp only [shelf_withShelf]
    by_cases same : collection = other
    · subst same
      simp only [if_true, get?_eraseAll, true_and, here]
    · simp [same]

theorem insert_fresh {store : Store} {collection : String} {document : Document} {id : ObjectId}
    (named : document.id? = some id) (absent : (store.shelf collection).get? id = none) :
    store.insert collection [document] =
      (.ok (), store.withShelf collection ((store.shelf collection).insert id document)) := by
  refine insert_ok_iff.2 ⟨_, ?_, rfl⟩
  simp [insertAll, named, SortedMap.contains, absent]

theorem insert_taken {store : Store} {collection : String} {document old : Document}
    {id : ObjectId} (named : document.id? = some id)
    (taken : (store.shelf collection).get? id = some old) :
    store.insert collection [document] =
      (.error (.documentAlreadyExists id collection), store.createCollection collection) := by
  simp [insert, insertAll, named, SortedMap.contains, taken]

/-- The states that a store comes to by its operations, those that fail included. -/
inductive Reachable : Store → Prop
  | empty : Reachable empty
  | insert {store : Store} (collection : String) (documents : List Document) :
      Reachable store → Reachable (store.insert collection documents).2
  | delete {store : Store} (collection : String) (ids : List ObjectId) :
      Reachable store → Reachable (store.delete collection ids)
  | createCollection {store : Store} (collection : String) :
      Reachable store → Reachable (store.createCollection collection)
  | dropCollection {store after : Store} (collection : String) :
      Reachable store → store.dropCollection collection = .ok after → Reachable after

/-- Every document lies under its own identifier. -/
def Keyed (store : Store) : Prop :=
  ∀ collection id document, (store.shelf collection).get? id = some document →
    document.id? = some id

theorem Keyed.pairwise {store : Store} (keyed : store.Keyed) (collection : String) :
    (store.shelf collection).values.Pairwise fun a b => a.id? ≠ b.id? := by
  rw [SortedMap.values, List.pairwise_map]
  refine (store.shelf collection).ascending.imp_of_mem fun {a b} here there below same => ?_
  rw [keyed collection a.1 a.2 (SortedMap.get?_of_mem here),
    keyed collection b.1 b.2 (SortedMap.get?_of_mem there)] at same
  rw [Option.some.inj same] at below
  exact absurd below (by simp [Std.ReflCmp.compare_self])

theorem keyed_empty : empty.Keyed := by
  intro collection id document found
  simp [Store.shelf, empty] at found

theorem Keyed.insert {store : Store} (h : store.Keyed) (collection : String)
    (documents : List Document) : (store.insert collection documents).2.Keyed := by
  intro other id document found
  rw [Store.insert] at found
  split at found
  · rename_i shelf inserted
    rw [shelf_withShelf] at found
    split at found
    · rcases (get?_insertAll inserted id document).1 found with old | ⟨_, own⟩
      · exact h collection id document old
      · exact own
    · exact h other id document found
  · rw [shelf_createCollection] at found
    exact h other id document found

theorem Keyed.delete {store : Store} (h : store.Keyed) (collection : String)
    (ids : List ObjectId) : (store.delete collection ids).Keyed := by
  intro other id document found
  rw [get?_shelf_delete] at found
  split at found
  · cases found
  · exact h other id document found

/-- Every state that a store comes to keeps each document under its own identifier. -/
theorem Reachable.keyed {store : Store} (h : store.Reachable) : store.Keyed := by
  induction h with
  | empty => exact keyed_empty
  | insert collection documents _ ih => exact ih.insert collection documents
  | delete collection ids _ ih => exact ih.delete collection ids
  | createCollection collection _ ih =>
    intro other id document found
    rw [shelf_createCollection] at found
    exact ih other id document found
  | dropCollection collection _ dropped ih =>
    intro other id document found
    rw [shelf_dropCollection other dropped] at found
    split at found
    · cases found
    · exact ih other id document found

end Store

end DocumentQuery
