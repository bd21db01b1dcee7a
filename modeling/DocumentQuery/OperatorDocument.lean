import DocumentQuery.Error
import DocumentQuery.Query

/-! Queries written as operator documents, the form in which document databases
take them: `$and` and `$or` hold lists of expressions, and a field holds a document
with one operator such as `$eq`. Patterns disregard case by an option.
-/

set_option autoImplicit false

namespace DocumentQuery

def Value.entry (key : String) (value : Value) : Value :=
  .document [(key, value)]

namespace OperatorDocument

def patternDocument (field : String) : Value → Except AccessError Value
  | .string text => .ok (.document [("$regex", .string text), ("$options", .string "i")])
  | value => .error (.patternNotWritable field value)

def comparisonDocument (field : String) (value : Value) :
    Comparison → Except AccessError Value
  | .eq => .ok (.entry "$eq" value)
  | .ne => .ok (.entry "$ne" value)
  | .gt => .ok (.entry "$gt" value)
  | .gte => .ok (.entry "$gte" value)
  | .lt => .ok (.entry "$lt" value)
  | .lte => .ok (.entry "$lte" value)
  | .matching => patternDocument field value
  | .notMatching => do return .entry "$not" (← patternDocument field value)
  | .among =>
    match value with
    | .array items => .ok (.entry "$in" (.array items))
    | value => .ok (.entry "$in" (.array [value]))

mutual

def ofExpr : Expr → Except AccessError Document
  | .all exprs => do return [("$and", .array (← ofExprs exprs))]
  | .any exprs => do return [("$or", .array (← ofExprs exprs))]
  | .exist field present => .ok [(field, .entry "$exists" (.bool present))]
  | .compare field comparison value => do
    return [(field, ← comparisonDocument field value comparison)]

def ofExprs : List Expr → Except AccessError (List Value)
  | [] => .ok []
  | expr :: rest => do
    let document ← ofExpr expr
    return .document document :: (← ofExprs rest)

end

def directionNumber : Direction → Int32
  | .ascending => 1
  | .descending => -1

def ofSort (keys : List SortKey) : Document :=
  -- A repeated field keeps its place and takes the later direction.
  Document.ofPairs (keys.map fun key => (key.field, .int32 (directionNumber key.direction)))

def ofProjection (projection : Projection) : Document :=
  Document.ofPairs
    (projection.entries.map fun (path, included) => (path, .int32 (if included then 1 else 0)))

end OperatorDocument

end DocumentQuery
