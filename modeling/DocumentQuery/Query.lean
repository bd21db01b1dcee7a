import DocumentQuery.Projection

/-! Queries: a filter expression, a page, sort keys, a selection, and references to
expand. A draft collects predicates one by one; finishing it joins them.
-/

set_option autoImplicit false

namespace DocumentQuery

inductive Comparison where
  | eq
  | ne
  | gt
  | gte
  | lt
  | lte
  /-- A text matches a pattern, letter case aside. -/
  | matching
  /-- No text matches a pattern. -/
  | notMatching
  /-- Equal to one of the elements of an array. -/
  | among
  deriving DecidableEq, Repr

inductive Expr where
  | all (exprs : List Expr)
  | any (exprs : List Expr)
  | exist (field : String) (present : Bool)
  | compare (field : String) (comparison : Comparison) (value : Value)

inductive Direction where
  | ascending
  | descending
  deriving DecidableEq, Repr

structure SortKey where
  field : String
  direction : Direction
  deriving DecidableEq, Repr

/-- A reference field whose identifiers are to be replaced, with the collection it points to
when that is known, and the part of the referents to load. -/
structure Directive where
  path : String
  target : Option String := none
  projection : Option Projection := none
  deriving DecidableEq, Repr

structure Query where
  filter : Option Expr := none
  limit : Option Int64 := none
  skip : Option Int64 := none
  sort : List SortKey := []
  projection : Option Projection := none
  populate : List Directive := []

/-- A query under construction; its predicates must all hold. -/
structure Draft where
  predicates : List Expr := []
  query : Query := {}

namespace Draft

def filtered (draft : Draft) (expr : Expr) : Draft :=
  { draft with predicates := draft.predicates ++ [expr] }

def allOf (draft : Draft) (exprs : List Expr) : Draft :=
  draft.filtered (.all exprs)

/-- Adds a group of predicates of which one must hold. -/
def anyOf (draft : Draft) (exprs : List Expr) : Draft :=
  draft.filtered (.any exprs)

def sorted (draft : Draft) (key : SortKey) : Draft :=
  { draft with query.sort := draft.query.sort ++ [key] }

def skipping (draft : Draft) (count : Int64) : Draft :=
  { draft with query.skip := some count }

def limited (draft : Draft) (count : Int64) : Draft :=
  { draft with query.limit := some count }

def selecting (draft : Draft) (projection : Projection) : Draft :=
  { draft with query.projection := Projection.both? draft.query.projection (some projection) }

def populating (draft : Draft) (directive : Directive) : Draft :=
  { draft with query.populate := draft.query.populate ++ [directive] }

/-- The filter of some predicates: a single one stands by itself, several are joined. -/
def filterOf : List Expr → Option Expr
  | [] => none
  | [expr] => some expr
  | exprs => some (.all exprs)

def finish (draft : Draft) : Query :=
  { draft.query with filter := filterOf draft.predicates }

end Draft

end DocumentQuery
