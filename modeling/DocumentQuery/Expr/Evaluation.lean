import DocumentQuery.Error
import DocumentQuery.Pattern.Matcher
import DocumentQuery.Pattern.Parser
import DocumentQuery.Query
import DocumentQuery.Value.Order

/-! Evaluation of filter expressions on documents. A comparison holds when some
value at its path, or some element of an array there, satisfies it; the negated
comparisons hold exactly when their positive forms do not. Groups are read from
left to right and no further than needed. Patterns are read once for all documents
of a query and remembered.
-/

set_option autoImplicit false

namespace DocumentQuery

abbrev PatternCache := List (String × Pattern.Node)

namespace PatternCache

/-- The cache that remembers the pattern of a text; what is remembered is not read again. -/
def remembering (cache : PatternCache) (text : String) : Except AccessError PatternCache :=
  if (cache.lookup text).isSome then .ok cache
  else
    match Pattern.read? text with
    | some node => .ok ((text, node) :: cache)
    | none => .error (.invalidPattern text)

def read (cache : PatternCache) (text : String) :
    Except AccessError (Pattern.Node × PatternCache) := do
  let cache ← cache.remembering text
  match cache.lookup text with
  | some node => return (node, cache)
  | none => throw (.backend ("pattern " ++ text ++ " not cached"))

variable {cache : PatternCache} {text : String}

theorem read_of_lookup {node : Pattern.Node} (remembered : cache.lookup text = some node) :
    cache.read text = .ok (node, cache) := by
  rw [read, remembering, remembered]
  simp [bind, Except.bind, remembered, pure, Except.pure]

theorem read_of_fresh {node : Pattern.Node} (fresh : cache.lookup text = none)
    (written : Pattern.read? text = some node) :
    cache.read text = .ok (node, (text, node) :: cache) := by
  rw [read, remembering, fresh, written]
  simp [bind, Except.bind, pure, Except.pure]

theorem read_of_unreadable (fresh : cache.lookup text = none)
    (unreadable : Pattern.read? text = none) :
    cache.read text = .error (.invalidPattern text) := by
  rw [read, remembering, fresh, unreadable]
  rfl

end PatternCache

namespace Document

/-- The values at a path, each array followed by its elements. -/
def candidates (document : Document) (field : String) : List Value :=
  (document.valuesAt (Path.ofText field)).flatMap fun value =>
    match value with
    | .array items => value :: items
    | _ => [value]

def hasEqual (document : Document) (field : String) (value : Value) : Bool :=
  (document.candidates field).any (·.same value)

def hasOrdered (document : Document) (field : String) (value : Value)
    (accepts : Ordering → Bool) : Bool :=
  (document.candidates field).any fun candidate => (candidate.compare? value).any accepts

def hasMatch (document : Document) (field : String) (node : Pattern.Node) : Bool :=
  (document.candidates field).any fun
    | .string text => node.occursIn text
    | _ => false

/-- Whether a value of a field equals an element of an array, or the value itself if it is none. -/
def hasMember (document : Document) (field : String) : Value → Bool
  | .array items => items.any (document.hasEqual field)
  | value => document.hasEqual field value

end Document

namespace Expr

abbrev Verdict := Except AccessError (Bool × PatternCache)

def matchPattern (document : Document) (field : String) (cache : PatternCache) : Value → Verdict
  | .string text => do
    let (node, cache) ← cache.read text
    return (document.hasMatch field node, cache)
  | _ => .error (.patternNotText field)

def evaluateComparison (document : Document) (cache : PatternCache) (field : String)
    (comparison : Comparison) (value : Value) : Verdict :=
  match comparison with
  | .eq => .ok (document.hasEqual field value, cache)
  | .ne => .ok (! document.hasEqual field value, cache)
  | .gt => .ok (document.hasOrdered field value (· == .gt), cache)
  | .gte => .ok (document.hasOrdered field value (· != .lt), cache)
  | .lt => .ok (document.hasOrdered field value (· == .lt), cache)
  | .lte => .ok (document.hasOrdered field value (· != .gt), cache)
  | .matching => matchPattern document field cache value
  | .notMatching => do
    let (found, cache) ← matchPattern document field cache value
    return (! found, cache)
  | .among => .ok (document.hasMember field value, cache)

mutual

def evaluate (document : Document) (cache : PatternCache) : Expr → Verdict
  | .all exprs => evaluateAll document cache exprs
  | .any exprs => evaluateAny document cache exprs
  | .exist field present => .ok ((document.candidates field).isEmpty != present, cache)
  | .compare field comparison value => evaluateComparison document cache field comparison value

def evaluateAll (document : Document) (cache : PatternCache) : List Expr → Verdict
  | [] => .ok (true, cache)
  | expr :: rest => do
    match ← evaluate document cache expr with
    | (true, cache) => evaluateAll document cache rest
    | (false, cache) => return (false, cache)

def evaluateAny (document : Document) (cache : PatternCache) : List Expr → Verdict
  | [] => .ok (false, cache)
  | expr :: rest => do
    match ← evaluate document cache expr with
    | (true, cache) => return (true, cache)
    | (false, cache) => evaluateAny document cache rest

end

/-- The documents on which an expression holds, in order, given the patterns read so far. -/
def selectFrom (expr : Expr) (cache : PatternCache) :
    List Document → Except AccessError (List Document)
  | [] => .ok []
  | document :: rest => do
    let (holds, cache) ← expr.evaluate document cache
    let selected ← expr.selectFrom cache rest
    return if holds then document :: selected else selected

def select (expr : Expr) (documents : List Document) : Except AccessError (List Document) :=
  expr.selectFrom [] documents

end Expr

end DocumentQuery
