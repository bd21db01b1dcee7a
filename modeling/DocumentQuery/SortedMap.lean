/-! Finite maps as lists of entries in ascending order of their keys, so that a
map has one representation and is read in key order.
-/

set_option autoImplicit false

namespace DocumentQuery

variable {κ α : Type} [Ord κ]

/-- A finite map whose entries ascend by key. -/
structure SortedMap (κ α : Type) [Ord κ] where
  entries : List (κ × α)
  ascending : entries.Pairwise fun a b => compare a.1 b.1 = .lt

namespace SortedMap

def empty : SortedMap κ α :=
  ⟨[], .nil⟩

instance : EmptyCollection (SortedMap κ α) := ⟨empty⟩

def insertEntry (key : κ) (value : α) : List (κ × α) → List (κ × α)
  | [] => [(key, value)]
  | (other, old) :: rest =>
    match compare key other with
    | .lt => (key, value) :: (other, old) :: rest
    | .eq => (key, value) :: rest
    | .gt => (other, old) :: insertEntry key value rest

theorem mem_insertEntry {key : κ} {value : α} {entries : List (κ × α)} {entry : κ × α}
    (h : entry ∈ insertEntry key value entries) : entry = (key, value) ∨ entry ∈ entries := by
  induction entries with
  | nil => simpa [insertEntry] using h
  | cons head rest ih =>
    obtain ⟨other, old⟩ := head
    unfold insertEntry at h
    split at h
    · simpa using h
    · simp only [List.mem_cons] at h ⊢
      rcases h with h | h
      · exact .inl h
      · exact .inr (.inr h)
    · simp only [List.mem_cons] at h ⊢
      rcases h with h | h
      · exact .inr (.inl h)
      · exact (ih h).imp id .inr

variable [Std.TransOrd κ] [Std.LawfulEqOrd κ]

theorem ascending_insertEntry {key : κ} {value : α} {entries : List (κ × α)}
    (h : entries.Pairwise fun a b => compare a.1 b.1 = .lt) :
    (insertEntry key value entries).Pairwise fun a b => compare a.1 b.1 = .lt := by
  induction entries with
  | nil => simp [insertEntry]
  | cons head rest ih =>
    obtain ⟨other, old⟩ := head
    obtain ⟨above, tail⟩ := List.pairwise_cons.1 h
    unfold insertEntry
    split
    · rename_i below
      refine List.pairwise_cons.2 ⟨?_, h⟩
      intro entry there
      rcases List.mem_cons.1 there with rfl | there
      · exact below
      · exact Std.TransCmp.lt_trans below (above entry there)
    · rename_i equal
      have same : key = other := Std.LawfulEqOrd.eq_of_compare equal
      subst same
      exact List.pairwise_cons.2 ⟨above, tail⟩
    · rename_i larger
      refine List.pairwise_cons.2 ⟨?_, ih tail⟩
      intro entry there
      rcases mem_insertEntry there with rfl | there
      · exact Std.OrientedCmp.lt_of_gt larger
      · exact above entry there

def insert (map : SortedMap κ α) (key : κ) (value : α) : SortedMap κ α :=
  ⟨insertEntry key value map.entries, ascending_insertEntry map.ascending⟩

def ofPairs (pairs : List (κ × α)) : SortedMap κ α :=
  pairs.foldl (fun map (key, value) => map.insert key value) empty

omit [Std.TransOrd κ] [Std.LawfulEqOrd κ]

def get? (map : SortedMap κ α) (key : κ) : Option α :=
  (map.entries.find? fun entry => compare key entry.1 == .eq).map (·.2)

def contains (map : SortedMap κ α) (key : κ) : Bool :=
  (map.get? key).isSome

def erase (map : SortedMap κ α) (key : κ) : SortedMap κ α :=
  ⟨map.entries.filter fun entry => compare key entry.1 != .eq, map.ascending.filter _⟩

def keys (map : SortedMap κ α) : List κ :=
  map.entries.map (·.1)

def values (map : SortedMap κ α) : List α :=
  map.entries.map (·.2)

def size (map : SortedMap κ α) : Nat :=
  map.entries.length

@[ext] theorem ext {a b : SortedMap κ α} (h : a.entries = b.entries) : a = b := by
  cases a; cases b; simp_all

@[simp] theorem get?_empty (key : κ) : (empty : SortedMap κ α).get? key = none := rfl

section Lookup

variable [Std.TransOrd κ] [Std.LawfulEqOrd κ]

theorem get?_insert_self (map : SortedMap κ α) (key : κ) (value : α) :
    (map.insert key value).get? key = some value := by
  obtain ⟨entries, ascending⟩ := map
  simp only [get?, insert]
  clear ascending
  induction entries with
  | nil => simp [insertEntry, Std.ReflCmp.compare_self]
  | cons head rest ih =>
    obtain ⟨other, old⟩ := head
    unfold insertEntry
    split
    · simp [Std.ReflCmp.compare_self]
    · simp [Std.ReflCmp.compare_self]
    · rename_i larger
      simpa [larger] using ih

theorem get?_insert_of_ne (map : SortedMap κ α) {key other : κ} (value : α) (h : key ≠ other) :
    (map.insert key value).get? other = map.get? other := by
  have apart : (compare other key == .eq) = false := by
    simp only [beq_eq_false_iff_ne]
    exact fun equal => h (Std.LawfulEqOrd.eq_of_compare equal).symm
  obtain ⟨entries, ascending⟩ := map
  simp only [get?, insert]
  clear ascending
  induction entries with
  | nil => simp [insertEntry, apart]
  | cons head rest ih =>
    obtain ⟨name, old⟩ := head
    unfold insertEntry
    split
    · simp [List.find?_cons, apart]
    · rename_i equal
      have same : key = name := Std.LawfulEqOrd.eq_of_compare equal
      subst same
      simp [apart]
    · simp only [List.find?_cons]
      split
      · rfl
      · exact ih

omit [Std.TransOrd κ] in
theorem get?_erase (map : SortedMap κ α) (key other : κ) :
    (map.erase key).get? other = if compare key other = .eq then none else map.get? other := by
  obtain ⟨entries, ascending⟩ := map
  simp only [get?, erase]
  clear ascending
  induction entries with
  | nil => simp
  | cons head rest ih =>
    obtain ⟨name, old⟩ := head
    by_cases here : compare key name = .eq
    · have same : key = name := Std.LawfulEqOrd.eq_of_compare here
      subst same
      rw [List.filter_cons_of_neg (by simp [Std.ReflCmp.compare_self]), ih]
      by_cases there : compare key other = .eq
      · simp [there]
      · have apart : (compare other key == .eq) = false := by
          simp only [beq_eq_false_iff_ne]
          intro equal
          exact there (by rw [Std.LawfulEqOrd.eq_of_compare equal]; exact Std.ReflCmp.compare_self)
        simp [there, apart]
    · rw [List.filter_cons_of_pos (by simpa using here)]
      simp only [List.find?_cons]
      split
      · rename_i equal
        have same : other = name := Std.LawfulEqOrd.eq_of_compare (by simpa using equal)
        subst same
        simp [here]
      · exact ih

end Lookup

end SortedMap

end DocumentQuery
