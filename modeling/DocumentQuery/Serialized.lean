import DocumentQuery.Error
import DocumentQuery.Value.Marked

/-! Serialized data, as programs hand it over for insertion. It becomes a document
when it is a map at the outside, which no mark makes a value of another type, and all
its unsigned numbers fit the signed range.
-/

set_option autoImplicit false

namespace DocumentQuery

inductive Serialized where
  | null
  | bool (value : Bool)
  | int32 (value : Int32)
  | int64 (value : Int64)
  | unsigned (value : UInt64)
  | double (value : Binary64)
  | string (value : String)
  | list (items : List Serialized)
  /-- A map; a later entry of a key replaces the earlier one in its place. -/
  | map (entries : List (String × Serialized))

namespace Serialized

mutual

def toValue : Serialized → Except AccessError Value
  | .null => .ok .null
  | .bool value => .ok (.bool value)
  | .int32 value => .ok (.int32 value)
  | .int64 value => .ok (.int64 value)
  | .unsigned value =>
    if value.toNat < 1 <<< 63 then .ok (.int64 (Int64.ofNat value.toNat))
    else .error (.unsignedTooLarge value.toNat)
  | .double value => .ok (.double value)
  | .string value => .ok (.string value)
  | .list items => do return .array (← toValues items)
  | .map entries => do return Value.ofMarked (Document.ofPairs (← toEntries entries))

def toValues : List Serialized → Except AccessError (List Value)
  | [] => .ok []
  | item :: rest => do
    let value ← toValue item
    return value :: (← toValues rest)

def toEntries : List (String × Serialized) → Except AccessError (List (String × Value))
  | [] => .ok []
  | (key, item) :: rest => do
    let value ← toValue item
    return (key, value) :: (← toEntries rest)

end

def toDocument (data : Serialized) : Except AccessError Document := do
  match ← data.toValue with
  | .document document => return document
  | other => .error (.notADocument other)

def toDocuments : List Serialized → Except AccessError (List Document)
  | [] => .ok []
  | data :: rest => do
    let document ← data.toDocument
    return document :: (← toDocuments rest)

end Serialized

end DocumentQuery
