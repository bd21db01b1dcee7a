import DocumentQuery.OperatorDocument
import DocumentQuery.Proofs.Document.Removal
import DocumentQuery.Proofs.Projection.Identifier
import DocumentQuery.SortKey
import DocumentQuery.Store
import Mathlib.Data.List.Induction

/-! Sort keys written as an operator document. The document holds each field once, at the
place of its first key but with the direction of its last one, while the store sorts by the
first key of a field. So the two orders are the same exactly when the first and the last key
of every field have one direction.
-/

set_option autoImplicit false

namespace DocumentQuery

def Value.flagged (flag : Bool) : Path → Value
  | [] => .bool flag
  | key :: rest => .document [(key, flagged flag rest)]

def Document.flagged (flag : Bool) : Path → Document
  | [] => []
  | key :: rest => [(key, .flagged flag rest)]

namespace OperatorDocument

def directionOf? : Value → Option Direction
  | .int32 number =>
    if number = 1 then some .ascending else if number = -1 then some .descending else none
  | _ => none

def sortKeys (sort : Document) : List SortKey :=
  sort.filterMap fun entry => (directionOf? entry.2).map (⟨entry.1, ·⟩)

def entryOf (key : SortKey) : String × Value :=
  (key.field, .int32 (directionNumber key.direction))

theorem sortKeys_map_entryOf (keys : List SortKey) : sortKeys (keys.map entryOf) = keys := by
  have read (key : SortKey) :
      (directionOf? (entryOf key).2).map (⟨(entryOf key).1, ·⟩) = some key := by
    obtain ⟨field, direction⟩ := key
    cases direction <;> rfl
  rw [sortKeys, List.filterMap_map]
  simp only [Function.comp_def, read]
  exact List.filterMap_some

end OperatorDocument

namespace SortKey

open OperatorDocument

/-- The order of two documents by some keys, each of which decides only what the ones before it
leave open. -/
def lexicographic (keys : List SortKey) (a b : Document) : Ordering :=
  keys.foldr (fun key rest => (Store.compareBy key a b).then rest) .eq

theorem lexicographic_cons (key : SortKey) (rest : List SortKey) (a b : Document) :
    lexicographic (key :: rest) a b = (Store.compareBy key a b).then (lexicographic rest a b) := rfl

theorem compareByAll_eq_lexicographic (keys : List SortKey) (a b : Document) :
    Store.compareByAll keys a b = lexicographic keys a b := by
  induction keys with
  | nil => rfl
  | cons key rest ih =>
    rw [lexicographic_cons, ← ih, Store.compareByAll, List.map_cons, List.find?_cons]
    cases Store.compareBy key a b <;> rfl

section Written

/-- Puts a key in the place of the one of its field, or behind all others. -/
def put (key : SortKey) : List SortKey → List SortKey
  | [] => [key]
  | other :: rest => if other.field = key.field then key :: rest else other :: put key rest

def written (keys : List SortKey) : List SortKey :=
  keys.foldl (fun keys key => put key keys) []

theorem written_append (keys : List SortKey) (key : SortKey) :
    written (keys ++ [key]) = put key (written keys) := by
  simp [written]

theorem set_entryOf (key : SortKey) (keys : List SortKey) :
    Document.set (entryOf key).1 (entryOf key).2 (keys.map entryOf) =
      (put key keys).map entryOf := by
  induction keys with
  | nil => rfl
  | cons other rest ih =>
    rw [List.map_cons, put]
    by_cases same : other.field = key.field
    · simp [Document.set, entryOf, same]
    · rw [if_neg same, List.map_cons, ← ih]
      simp [Document.set, entryOf, same]

theorem ofSort_append (keys : List SortKey) (key : SortKey) :
    ofSort (keys ++ [key]) = (ofSort keys).set (entryOf key).1 (entryOf key).2 := by
  simp [ofSort, Document.ofPairs, entryOf]

theorem ofSort_eq (keys : List SortKey) : ofSort keys = (written keys).map entryOf := by
  induction keys using List.reverseRecOn with
  | nil => rfl
  | append_singleton keys key ih => rw [ofSort_append, ih, set_entryOf, written_append]

theorem sortKeys_ofSort (keys : List SortKey) : sortKeys (ofSort keys) = written keys := by
  rw [ofSort_eq, sortKeys_map_entryOf]

theorem find?_put (key : SortKey) (keys : List SortKey) (field : String) :
    (put key keys).find? (·.field = field) =
      if key.field = field then some key else keys.find? (·.field = field) := by
  induction keys with
  | nil => by_cases here : key.field = field <;> simp [put, here]
  | cons other rest ih =>
    rw [put]
    by_cases same : other.field = key.field
    · by_cases here : key.field = field <;> simp [same, here]
    · by_cases here : key.field = field
      · have passed : other.field ≠ field := fun found => same (found.trans here.symm)
        simpa [same, passed, here] using ih
      · simp [same, here, ih, List.find?_cons]

theorem find?_fields_put (key : SortKey) (keys : List SortKey) (accepts : String → Bool) :
    ((put key keys).map (·.field)).find? accepts =
      (keys.map (·.field) ++ [key.field]).find? accepts := by
  induction keys with
  | nil => rfl
  | cons other rest ih =>
    rw [put]
    split
    · rename_i same
      cases accepted : accepts key.field <;> simp [same, accepted]
    · simp [List.find?_cons, ih]

/-- A written field has the direction of its last key. -/
theorem find?_written (keys : List SortKey) (field : String) :
    (written keys).find? (·.field = field) = keys.reverse.find? (·.field = field) := by
  induction keys using List.reverseRecOn with
  | nil => rfl
  | append_singleton keys key ih =>
    rw [written_append, find?_put, ih, List.reverse_append]
    by_cases here : key.field = field <;> simp [here]

theorem find?_fields_written (keys : List SortKey) (accepts : String → Bool) :
    ((written keys).map (·.field)).find? accepts = (keys.map (·.field)).find? accepts := by
  induction keys using List.reverseRecOn with
  | nil => rfl
  | append_singleton keys key ih =>
    rw [written_append, find?_fields_put, List.find?_append, ih, List.map_append,
      List.find?_append]
    rfl

end Written

section Deciding

def tells (a b : Document) (field : String) : Bool :=
  Store.compareBy ⟨field, .ascending⟩ a b != .eq

theorem compareBy_eq_iff (key : SortKey) (a b : Document) :
    Store.compareBy key a b = .eq ↔ tells a b key.field = false := by
  obtain ⟨field, direction⟩ := key
  cases direction <;> simp [tells, Store.compareBy]

/-- Two documents are ordered by the first field that tells them apart, in the direction of the
first key of this field. -/
theorem lexicographic_eq (keys : List SortKey) (a b : Document) :
    lexicographic keys a b =
      (((keys.map (·.field)).find? (tells a b)).bind fun field =>
        keys.find? (·.field = field)).elim .eq (Store.compareBy · a b) := by
  induction keys with
  | nil => rfl
  | cons key rest ih =>
    rw [lexicographic_cons, List.map_cons, List.find?_cons]
    cases told : tells a b key.field with
    | true =>
      have decided : Store.compareBy key a b ≠ .eq := by
        intro undecided
        rw [(compareBy_eq_iff key a b).1 undecided] at told
        cases told
      simp only [Option.bind_some, List.find?_cons, decide_true, Option.elim_some]
      cases order : Store.compareBy key a b with
      | eq => exact absurd order decided
      | lt | gt => rfl
    | false =>
      rw [(compareBy_eq_iff key a b).2 told, ih]
      cases next : (rest.map (·.field)).find? (tells a b) with
      | none => rfl
      | some field =>
        have other : key.field ≠ field := by
          rintro rfl
          rw [List.find?_some next] at told
          cases told
        simp [List.find?_cons, other]

end Deciding

end SortKey

namespace Value

theorem valuesAt_flagged (flag : Bool) (path : Path) :
    (flagged flag path).valuesAt path = [.bool flag] := by
  induction path with
  | nil => rfl
  | cons key rest ih => simp [flagged, valuesAt, documents, Document.get?, ih]

theorem sortOrder_flagged_of_ne {path other : Path} (apart : other ≠ path) :
    sortOrder ((flagged false path).valuesAt other).head?
      ((flagged true path).valuesAt other).head? = .eq := by
  induction path generalizing other with
  | nil =>
    cases other with
    | nil => exact absurd rfl apart
    | cons name more => rfl
  | cons key rest ih =>
    cases other with
    | nil => rfl
    | cons name more =>
      by_cases same : key = name
      · have inner : more ≠ rest := fun equal => apart (by rw [equal, same])
        simpa [flagged, valuesAt, documents, Document.get?, same] using ih inner
      · simp [flagged, valuesAt, documents, Document.get?, same, sortOrder]

end Value

namespace SortKey

open OperatorDocument

theorem valueAt?_flagged (flag : Bool) {path : Path} (nonempty : path ≠ []) (other : Path) :
    (Document.flagged flag path).valueAt? other =
      ((Value.flagged flag path).valuesAt other).head? := by
  cases path with
  | nil => exact absurd rfl nonempty
  | cons key rest => rfl

/-- The documents that differ at the path of a field are told apart by this field and no other. -/
theorem tells_flagged (field other : String) :
    tells (.flagged false (Path.ofText field)) (.flagged true (Path.ofText field)) other =
      decide (other = field) := by
  have nonempty := Path.ofText_ne_nil field
  simp only [tells, Store.compareBy, valueAt?_flagged _ nonempty]
  by_cases same : other = field
  · subst same
    rw [Value.valuesAt_flagged, Value.valuesAt_flagged]
    simp [Value.sortOrder, Value.isNull, Value.compare?]
    decide
  · have apart : Path.ofText other ≠ Path.ofText field := by
      intro equal
      apply same
      rw [← Path.text_ofText other, equal, Path.text_ofText]
    simp [Value.sortOrder_flagged_of_ne apart, same]

theorem compareBy_flagged (key : SortKey) :
    Store.compareBy key (.flagged false (Path.ofText key.field))
        (.flagged true (Path.ofText key.field)) =
      if key.direction = .ascending then .lt else .gt := by
  have nonempty := Path.ofText_ne_nil key.field
  have order : Value.sortOrder (some (.bool false)) (some (.bool true)) = .lt := by decide
  obtain ⟨field, direction⟩ := key
  simp only [Store.compareBy, valueAt?_flagged _ nonempty, Value.valuesAt_flagged,
    List.head?_cons, order]
  cases direction <;> rfl

theorem lexicographic_flagged (keys : List SortKey) (field : String) :
    lexicographic keys (.flagged false (Path.ofText field)) (.flagged true (Path.ofText field)) =
      (keys.find? (·.field = field)).elim .eq fun key =>
        if key.direction = .ascending then .lt else .gt := by
  rw [lexicographic_eq, funext (tells_flagged field), List.find?_map, Function.comp_def]
  cases found : keys.find? (·.field = field) with
  | none => rfl
  | some key =>
    have own : key.field = field := by simpa using List.find?_some found
    subst own
    simp only [Option.map_some, Option.bind_some, found, Option.elim_some]
    exact compareBy_flagged key

theorem eq_of_find? {keys others : List SortKey} {field : String} {key other : SortKey}
    (found : keys.find? (·.field = field) = some key)
    (found' : others.find? (·.field = field) = some other)
    (same : key.direction = other.direction) : key = other := by
  have own : key.field = field := by simpa using List.find?_some found
  have own' : other.field = field := by simpa using List.find?_some found'
  obtain ⟨_, direction⟩ := key
  cases own
  cases same
  cases own'
  rfl

/-- The first and the last key of every field have one direction. -/
def Settled (keys : List SortKey) : Prop :=
  ∀ field, keys.find? (·.field = field) = keys.reverse.find? (·.field = field)

/-- A sort document asks for the order in which the store sorts exactly when the first and the last
key of every field have one direction. -/
theorem written_exactly (keys : List SortKey) :
    (∀ a b, lexicographic (sortKeys (ofSort keys)) a b = Store.compareByAll keys a b) ↔
      Settled keys := by
  rw [sortKeys_ofSort]
  constructor
  · intro same field
    have probed := same (.flagged false (Path.ofText field)) (.flagged true (Path.ofText field))
    rw [compareByAll_eq_lexicographic, lexicographic_flagged, lexicographic_flagged,
      find?_written] at probed
    cases first : keys.find? (·.field = field) with
    | none =>
      rw [List.find?_eq_none] at first
      exact (List.find?_eq_none.2 fun key there => first key (List.mem_reverse.1 there)).symm
    | some key =>
      cases last : keys.reverse.find? (·.field = field) with
      | none =>
        rw [first, last] at probed
        simp only [Option.elim_none, Option.elim_some] at probed
        split at probed <;> cases probed
      | some other =>
        rw [first, last] at probed
        simp only [Option.elim_some] at probed
        refine congrArg some (eq_of_find? first last ?_)
        cases down : key.direction <;> cases down' : other.direction <;>
          simp [down, down'] at probed ⊢
  · intro settled a b
    rw [compareByAll_eq_lexicographic, lexicographic_eq, lexicographic_eq, find?_fields_written]
    simp only [find?_written, settled _]

/-- A name that is sorted by twice, in both directions: the store sorts by the first key, and the
document has the direction of the second. -/
theorem written_turns_name :
    SortKey.ofValues ["name,name:desc"] = [⟨"name", .ascending⟩, ⟨"name", .descending⟩] ∧
      Store.compareByAll (SortKey.ofValues ["name,name:desc"]) [("name", .string "a")]
        [("name", .string "b")] = .lt ∧
      ofSort (SortKey.ofValues ["name,name:desc"]) = [("name", .int32 (-1))] ∧
      lexicographic (sortKeys (ofSort (SortKey.ofValues ["name,name:desc"])))
        [("name", .string "a")] [("name", .string "b")] = .gt := by
  decide +kernel

end SortKey

end DocumentQuery
