import DocumentQuery.Value

/-! Equality of values is decidable. Unlike the equality of filters it tells the
widths of numbers and the order of keys apart.
-/

set_option autoImplicit false

namespace DocumentQuery.Value

mutual

def identical : Value → Value → Bool
  | .null, .null | .undefined, .undefined | .minKey, .minKey | .maxKey, .maxKey => true
  | .bool a, .bool b => a == b
  | .int32 a, .int32 b => a == b
  | .int64 a, .int64 b => a == b
  | .double a, .double b => decide (a = b)
  | .string a, .string b => a == b
  | .date a, .date b => decide (a = b)
  | .objectId a, .objectId b => decide (a = b)
  | .sealed a, .sealed b => decide (a = b)
  | .array items, .array others => identicalItems items others
  | .document fields, .document others => identicalFields fields others
  | _, _ => false

def identicalItems : List Value → List Value → Bool
  | [], [] => true
  | item :: items, other :: others => identical item other && identicalItems items others
  | _, _ => false

def identicalFields : Document → Document → Bool
  | [], [] => true
  | (key, value) :: fields, (name, other) :: others =>
    key == name && identical value other && identicalFields fields others
  | _, _ => false

end

mutual

theorem identical_iff (a b : Value) : a.identical b = true ↔ a = b := by
  match a with
  | .array items => cases b <;> simp [identical, identicalItems_iff items]
  | .document fields => cases b <;> simp [identical, identicalFields_iff fields]
  | .null | .undefined | .minKey | .maxKey => cases b <;> simp [identical]
  | .bool _ | .int32 _ | .int64 _ | .double _ | .string _ | .date _ | .objectId _
  | .sealed _ => cases b <;> simp [identical]

theorem identicalItems_iff (items others : List Value) :
    identicalItems items others = true ↔ items = others := by
  match items, others with
  | [], [] | [], _ :: _ | _ :: _, [] => simp [identicalItems]
  | item :: items, other :: others =>
    simp [identicalItems, identical_iff item, identicalItems_iff items]

theorem identicalFields_iff (fields others : Document) :
    identicalFields fields others = true ↔ fields = others := by
  match fields, others with
  | [], [] | [], _ :: _ | _ :: _, [] => simp [identicalFields]
  | (key, value) :: fields, (name, other) :: others =>
    simp [identicalFields, identical_iff value, identicalFields_iff fields, and_assoc]

end

instance : DecidableEq Value := fun a b =>
  decidable_of_iff (a.identical b = true) (identical_iff a b)

end DocumentQuery.Value
