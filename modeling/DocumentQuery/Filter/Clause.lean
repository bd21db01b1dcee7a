import DocumentQuery.Query

/-! Clauses: single predicates compiled from filter parameters, each with the way
it joins the rest of a query.
-/

set_option autoImplicit false

namespace DocumentQuery

inductive Combinator where
  /-- In a group of its own that must hold. -/
  | and
  /-- In an alternative of its own. -/
  | or
  /-- As an independent predicate. -/
  | independent
  deriving DecidableEq, Repr

inductive Operator where
  | compare (comparison : Comparison)
  | exist
  | notExist
  deriving DecidableEq, Repr

structure Clause where
  field : String
  combinator : Combinator
  operator : Operator
  value : Value

namespace Clause

def expr (clause : Clause) : Expr :=
  match clause.operator, clause.value with
  | .exist, _ => .exist clause.field true
  | .notExist, _ => .exist clause.field false
  | .compare .among, .array items => .compare clause.field .among (.array items)
  -- Membership is always in an array.
  | .compare .among, value => .compare clause.field .among (.array [value])
  | .compare comparison, value => .compare clause.field comparison value

/-- Adds a clause to a draft the way its combinator says. -/
def addTo (draft : Draft) (clause : Clause) : Draft :=
  match clause.combinator with
  | .independent => draft.filtered clause.expr
  | .and => draft.allOf [clause.expr]
  | .or => draft.anyOf [clause.expr]

def addAll (draft : Draft) (clauses : List Clause) : Draft :=
  clauses.foldl addTo draft

end Clause

end DocumentQuery
