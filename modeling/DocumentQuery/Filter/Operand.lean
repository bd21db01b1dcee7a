import DocumentQuery.Error
import DocumentQuery.Filter.Clause
import DocumentQuery.Number.Literal
import DocumentQuery.Pattern.Parser
import DocumentQuery.Schema
import DocumentQuery.Text.Words

/-! Operands of filters. The first characters of a filter value choose the
operator, and the rest is read as the declared type of the field:

* `<<` less, `<` less or equal, `>>` greater, `>` greater or equal;
* `*!` the field is absent, `*` it is present;
* `!` not equal, and equal without any of these.

On text fields, equality and its negation are matches of a pattern. Identifier
fields take a list of identifiers between commas.
-/

set_option autoImplicit false

namespace DocumentQuery.Filter

inductive Mark where
  | less
  | lessOrEqual
  | greater
  | greaterOrEqual
  | absent
  | present
  | negated
  | plain
  deriving DecidableEq, Repr

def mark : List Char → Mark × List Char
  | '<' :: '<' :: rest => (.less, rest)
  | '<' :: rest => (.lessOrEqual, rest)
  | '>' :: '>' :: rest => (.greater, rest)
  | '>' :: rest => (.greaterOrEqual, rest)
  | '*' :: '!' :: rest => (.absent, rest)
  | '*' :: rest => (.present, rest)
  | '!' :: rest => (.negated, rest)
  | text => (.plain, text)

def Mark.comparison : Mark → Comparison
  | .less => .lt
  | .lessOrEqual => .lte
  | .greater => .gt
  | .greaterOrEqual => .gte
  | .negated => .ne
  | .absent | .present | .plain => .eq

def reference (text : String) : Except AccessError Value :=
  match ObjectId.read? text with
  | some id => .ok (.objectId id)
  | none => .error (.invalidReference text)

def pattern (text : String) : Except AccessError Value :=
  if (Pattern.read? text).isSome then .ok (.string text)
  else .error (.invalidValue text .pattern)

/-- A value of a declared type; fields without one keep the text. -/
def coerce (text : String) : Option Primitive → Except AccessError Value
  | some .number =>
    match Number.readInt64? text.toList, Number.readBinary64? text.toList with
    | some n, _ => .ok (.int64 n)
    | none, some x => .ok (.double x)
    | none, none => .error (.invalidValue text .number)
  | some .boolean =>
    if text = "true" then .ok (.bool true)
    else if text = "false" then .ok (.bool false)
    else .error (.invalidValue text .boolean)
  | some .date =>
    match Timestamp.read? text with
    | some time => .ok (.date time)
    | none => .error (.invalidValue text .date)
  | some .objectId => reference text
  | some .string | none => .ok (.string text)

def collect {α β : Type} (f : α → Except AccessError β) : List α → Except AccessError (List β)
  | [] => .ok []
  | a :: rest => do return (← f a) :: (← collect f rest)

/-- The operand of an identifier field. A comma makes it a list, whatever its mark. -/
def identifierOperand (text : String) : Except AccessError (Operator × Value) := do
  match mark text.toList with
  | (.present, _) => return (.exist, .bool true)
  | (.absent, _) => return (.notExist, .bool false)
  | (mark, rest) =>
    -- The mark stays with the first identifier of a list, which is refused for it.
    if text.toList.contains ',' then
      return (.compare .among, .array (← collect reference (Text.splitAt ',' text)))
    else
      return (.compare mark.comparison, ← reference (String.ofList rest))

def typedOperand (text : String) (type : Option FieldType) :
    Except AccessError (Operator × Value) := do
  let primitive := type.bind (·.primitive?)
  let (mark, rest) := mark text.toList
  let rest := String.ofList rest
  match mark with
  -- Tests of presence do not look at the rest.
  | .present => return (.exist, .bool true)
  | .absent => return (.notExist, .bool false)
  | .negated =>
    if primitive = some .string then return (.compare .notMatching, ← pattern rest)
    else return (.compare .ne, ← coerce rest primitive)
  | .plain =>
    if primitive = some .string then return (.compare .matching, ← pattern rest)
    else return (.compare .eq, ← coerce rest primitive)
  | mark => return (.compare mark.comparison, ← coerce rest primitive)

def operand (text : String) (type : Option FieldType) : Except AccessError (Operator × Value) :=
  if type.any (·.isIdentifier) then identifierOperand text else typedOperand text type

end DocumentQuery.Filter
