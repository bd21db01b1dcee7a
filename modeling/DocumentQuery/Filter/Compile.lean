import DocumentQuery.Filter.Operand
import DocumentQuery.Parameters

/-! Compilation of filter parameters. A parameter `filter[field]` becomes one
clause; a plus or minus sign before the field chooses how the clause joins the
others, and further segments of the name do not count.
-/

set_option autoImplicit false

namespace DocumentQuery.Filter

def root : String := "filter"

/-- Divides a field into the sign in front of it and its name. -/
def combinator : List Char → Combinator × List Char
  | '+' :: rest => (.and, rest)
  | '-' :: rest => (.or, rest)
  | text => (.independent, text)

/-- The stored name of a field: clients call the primary key `id`. -/
def storedName (primaryKey name : String) : String :=
  if name = "id" then primaryKey else name

/-- Compiles the filter of one field, which may have a sign; nothing but a sign says nothing. -/
def compileClause (primaryKey : String) (schema : Schema) (field value : String) :
    Except AccessError (Option Clause) :=
  match combinator field.toList with
  | (_, []) => .ok none
  | (combinator, name) => do
    let name := storedName primaryKey (String.ofList name)
    let (operator, value) ← operand value (schema.fieldType? name)
    return some ⟨name, combinator, operator, value⟩

/-- The field that a parameter filters by: its first segment up to a dot. -/
def fieldOf? (name : String) : Option String := do
  let segment ← (← Parameters.segments? name root).head?
  let field ← (Path.ofText segment).head?
  if field = "" then none else some field

/-- Compiles filter parameters, in order; parameters of other families are passed over. -/
def compile (primaryKey : String) (schema : Schema) : Parameters → Except AccessError (List Clause)
  | [] => .ok []
  | (name, value) :: rest => do
    let clause ← match fieldOf? name with
      | some field => compileClause primaryKey schema field value
      | none => .ok none
    return clause.toList ++ (← compile primaryKey schema rest)

end DocumentQuery.Filter
