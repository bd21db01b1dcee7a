import DocumentQuery.Value

/-! Comparison of values. Numbers of all widths are compared as double-precision
numbers. Equality looks into arrays and documents and disregards the order of
keys; order holds only between two values of one kind, and null-like values have
no order. Sorting extends it: null-like and missing values come first, and what
cannot be compared counts as equal.
-/

set_option autoImplicit false

namespace DocumentQuery.Value

def number? : Value → Option Binary64
  | .int32 value => some (.ofInt value.toInt)
  | .int64 value => some (.ofInt value.toInt)
  | .double value => some value
  | _ => none

/-- Values that count as the absence of a value. -/
def isNull : Value → Bool
  | .null | .undefined | .minKey | .maxKey | .sealed _ => true
  | _ => false

mutual

/-- Whether two values are equal as filters understand it. -/
def same : Value → Value → Bool
  | .bool a, .bool b => a == b
  | .string a, .string b => a == b
  | .date a, .date b => a == b
  | .objectId a, .objectId b => a == b
  | .array items, .array others => sameItems items others
  | .document fields, .document others =>
    fields.length == others.length && sameFields fields others
  | a, b =>
    match a.number?, b.number? with
    | some x, some y => x.compare? y == some .eq
    | _, _ => a.isNull && b.isNull

def sameItems : List Value → List Value → Bool
  | [], [] => true
  | item :: items, other :: others => same item other && sameItems items others
  | _, _ => false

/-- Whether every key holds an equal value in the other document. -/
def sameFields : List (String × Value) → Document → Bool
  | [], _ => true
  | (key, value) :: rest, others =>
    (match others.get? key with
      | some other => same value other
      | none => false) && sameFields rest others

end

/-- The order of two values of one kind. -/
def compare? : Value → Value → Option Ordering
  | .bool a, .bool b => some (compare a b)
  | .string a, .string b => some (compare a b)
  | .date a, .date b => some (compare a.millis b.millis)
  | .objectId a, .objectId b => some (compare a b)
  | a, b =>
    match a.number?, b.number? with
    | some x, some y => x.compare? y
    | _, _ => none

/-- The order of two values, possibly missing, when documents are sorted. -/
def sortOrder (left right : Option Value) : Ordering :=
  match left.filter (! ·.isNull), right.filter (! ·.isNull) with
  | none, none => .eq
  | none, some _ => .lt
  | some _, none => .gt
  | some a, some b => (a.compare? b).getD .eq

end DocumentQuery.Value
