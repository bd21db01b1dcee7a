import DocumentQuery.OperatorDocument
import DocumentQuery.Proofs.Action
import DocumentQuery.Proofs.Filter.Readable

/-! The translation of expressions to operator documents can be undone. Groups hold arrays and
fields hold documents, so no field is taken for a group, whatever its name. What cannot be told
from the document is whether membership was asked of an array or of a single value, and both
select the same.
-/

set_option autoImplicit false

namespace DocumentQuery

def Value.listed : Value → List Value
  | .array items => items
  | value => [value]

namespace Expr

/-- Proves a property of every expression from the properties of its members. -/
@[elab_as_elim]
theorem memberInduction {motive : Expr → Prop}
    (all : ∀ exprs : List Expr, (∀ expr ∈ exprs, motive expr) → motive (.all exprs))
    (any : ∀ exprs : List Expr, (∀ expr ∈ exprs, motive expr) → motive (.any exprs))
    (exist : ∀ field present, motive (.exist field present))
    (compare : ∀ field comparison value, motive (.compare field comparison value))
    (expr : Expr) : motive expr := by
  cases expr with
  | all exprs => exact all exprs fun expr _ => memberInduction all any exist compare expr
  | any exprs => exact any exprs fun expr _ => memberInduction all any exist compare expr
  | exist field present => exact exist field present
  | compare field comparison value => exact compare field comparison value

inductive Occurs (part : Expr) : Expr → Prop
  | here : Occurs part part
  | all {exprs : List Expr} {expr : Expr} :
      expr ∈ exprs → Occurs part expr → Occurs part (.all exprs)
  | any {exprs : List Expr} {expr : Expr} :
      expr ∈ exprs → Occurs part expr → Occurs part (.any exprs)

/-- Every pattern in an expression is a text, well formed or not. -/
def Textual (expr : Expr) : Prop :=
  ∀ field comparison value, Occurs (.compare field comparison value) expr →
    comparison.isPattern = true → ∃ text, value = .string text

mutual

def listed : Expr → Expr
  | .all exprs => .all (listedEach exprs)
  | .any exprs => .any (listedEach exprs)
  | .exist field present => .exist field present
  | .compare field .among value => .compare field .among (.array value.listed)
  | .compare field comparison value => .compare field comparison value

def listedEach : List Expr → List Expr
  | [] => []
  | expr :: rest => listed expr :: listedEach rest

end

end Expr

namespace OperatorDocument

def patternText? : Document → Option String
  | [("$regex", .string text), ("$options", .string "i")] => some text
  | _ => none

/-- The expression on a field that an operator and its operand write. -/
def operator? (field : String) : String → Value → Option Expr
  | "$exists", .bool present => some (.exist field present)
  | "$eq", value => some (.compare field .eq value)
  | "$ne", value => some (.compare field .ne value)
  | "$gt", value => some (.compare field .gt value)
  | "$gte", value => some (.compare field .gte value)
  | "$lt", value => some (.compare field .lt value)
  | "$lte", value => some (.compare field .lte value)
  | "$in", .array items => some (.compare field .among (.array items))
  | "$not", .document pattern =>
    (patternText? pattern).map fun text => .compare field .notMatching (.string text)
  | _, _ => none

def predicate? (field : String) : Document → Option Expr
  | [(operator, operand)] => operator? field operator operand
  | written => (patternText? written).map fun text => .compare field .matching (.string text)

mutual

def toExpr? : Document → Option Expr
  | [(key, value)] => ofField? key value
  | _ => none

def ofField? (key : String) : Value → Option Expr
  | .array items =>
    if key = "$and" then (toExprs? items).map .all
    else if key = "$or" then (toExprs? items).map .any
    else none
  | .document written => predicate? key written
  | _ => none

def toExprs? : List Value → Option (List Expr)
  | [] => some []
  | .document document :: rest => do return (← toExpr? document) :: (← toExprs? rest)
  | _ :: _ => none

end

end OperatorDocument

namespace Expr

theorem textual_all {exprs : List Expr} : (all exprs).Textual ↔ ∀ expr ∈ exprs, expr.Textual := by
  constructor
  · intro textual expr there field comparison value occurs
    exact textual field comparison value (.all there occurs)
  · intro each field comparison value occurs
    cases occurs with
    | all there occurs => exact each _ there field comparison value occurs

theorem textual_any {exprs : List Expr} : (any exprs).Textual ↔ ∀ expr ∈ exprs, expr.Textual := by
  constructor
  · intro textual expr there field comparison value occurs
    exact textual field comparison value (.any there occurs)
  · intro each field comparison value occurs
    cases occurs with
    | any there occurs => exact each _ there field comparison value occurs

theorem textual_exist (field : String) (present : Bool) : (exist field present).Textual := by
  intro _ _ _ occurs
  cases occurs

theorem textual_compare {field : String} {comparison : Comparison} {value : Value} :
    (compare field comparison value).Textual ↔
      (comparison.isPattern = true → ∃ text, value = .string text) := by
  constructor
  · intro textual
    exact textual field comparison value .here
  · intro text _ _ _ occurs
    cases occurs
    exact text

theorem listedEach_eq_map (exprs : List Expr) : listedEach exprs = exprs.map listed := by
  induction exprs with
  | nil => rfl
  | cons expr rest ih => rw [listedEach, ih, List.map_cons]

theorem listed_compare {comparison : Comparison} (other : comparison ≠ .among) (field : String)
    (value : Value) : (compare field comparison value).listed = compare field comparison value := by
  cases comparison with
  | among => exact absurd rfl other
  | _ => simp only [listed]

theorem hasMember_listed (document : Document) (field : String) (value : Value) :
    document.hasMember field (.array value.listed) = document.hasMember field value := by
  cases value with
  | array items => rfl
  | _ => exact Bool.or_false _

theorem evaluateAll_congr {change : Expr → Expr} {exprs : List Expr} {document : Document}
    (each : ∀ expr ∈ exprs, ∀ cache, (change expr).evaluate document cache =
      expr.evaluate document cache) (cache : PatternCache) :
    evaluateAll document cache (exprs.map change) = evaluateAll document cache exprs := by
  induction exprs generalizing cache with
  | nil => rfl
  | cons expr rest ih =>
    obtain ⟨first, later⟩ := List.forall_mem_cons.1 each
    simp only [List.map_cons, evaluateAll, first, ih later]

theorem evaluateAny_congr {change : Expr → Expr} {exprs : List Expr} {document : Document}
    (each : ∀ expr ∈ exprs, ∀ cache, (change expr).evaluate document cache =
      expr.evaluate document cache) (cache : PatternCache) :
    evaluateAny document cache (exprs.map change) = evaluateAny document cache exprs := by
  induction exprs generalizing cache with
  | nil => rfl
  | cons expr rest ih =>
    obtain ⟨first, later⟩ := List.forall_mem_cons.1 each
    simp only [List.map_cons, evaluateAny, first, ih later]

/-- Membership in an array of one is equality, so an expression with arrays evaluates the same. -/
theorem evaluate_listed (expr : Expr) (document : Document) (cache : PatternCache) :
    expr.listed.evaluate document cache = expr.evaluate document cache := by
  induction expr using memberInduction generalizing cache with
  | all exprs ih =>
    rw [listed, listedEach_eq_map, evaluate, evaluate]
    exact evaluateAll_congr ih cache
  | any exprs ih =>
    rw [listed, listedEach_eq_map, evaluate, evaluate]
    exact evaluateAny_congr ih cache
  | exist field present => rw [listed]
  | compare field comparison value =>
    cases comparison with
    | among => simp only [listed, evaluate, evaluateComparison, hasMember_listed]
    | _ => simp only [listed]

theorem select_listed (expr : Expr) (documents : List Document) :
    expr.listed.select documents = expr.select documents := by
  have from_cache (cache : PatternCache) :
      expr.listed.selectFrom cache documents = expr.selectFrom cache documents := by
    induction documents generalizing cache with
    | nil => rfl
    | cons document rest ih => simp only [selectFrom, evaluate_listed, ih]
  exact from_cache []

end Expr

namespace OperatorDocument

theorem exists_ok_iff {α β : Type} {result : Except AccessError α} (make : α → β) :
    (∃ made, (do return make (← result)) = Except.ok (ε := AccessError) made) ↔
      ∃ a, result = .ok a := by
  cases result <;> simp [bind, Except.bind, pure, Except.pure]

theorem exists_patternDocument_iff {field : String} {value : Value} :
    (∃ written, patternDocument field value = .ok written) ↔ ∃ text, value = .string text := by
  cases value <;> simp [patternDocument]

theorem exists_comparisonDocument_iff {field : String} {comparison : Comparison} {value : Value} :
    (∃ written, comparisonDocument field value comparison = .ok written) ↔
      (comparison.isPattern = true → ∃ text, value = .string text) := by
  cases comparison with
  | matching =>
    simp only [Comparison.isPattern, forall_const]
    exact exists_patternDocument_iff
  | notMatching =>
    simp only [Comparison.isPattern, forall_const]
    exact (exists_ok_iff (Value.entry "$not")).trans exists_patternDocument_iff
  | among => cases value <;> simp [comparisonDocument, Comparison.isPattern]
  | _ => simp [comparisonDocument, Comparison.isPattern]

theorem exists_ofExprs_iff {exprs : List Expr} :
    (∃ documents, ofExprs exprs = .ok documents) ↔
      ∀ expr ∈ exprs, ∃ document, ofExpr expr = .ok document := by
  refine ⟨fun written => ?_, exists_ofExprs⟩
  induction exprs with
  | nil => nofun
  | cons expr rest ih =>
    obtain ⟨documents, written⟩ := written
    obtain ⟨document, first, written⟩ := ok_of_bind written
    obtain ⟨others, later, _⟩ := ok_of_bind written
    exact List.forall_mem_cons.2 ⟨⟨document, first⟩, ih ⟨others, later⟩⟩

/-- An expression can be written exactly when every pattern in it is a text. -/
theorem exists_ofExpr_iff (expr : Expr) :
    (∃ document, ofExpr expr = .ok document) ↔ expr.Textual := by
  induction expr using Expr.memberInduction with
  | all exprs ih =>
    rw [ofExpr, exists_ok_iff, exists_ofExprs_iff, Expr.textual_all]
    exact forall₂_congr ih
  | any exprs ih =>
    rw [ofExpr, exists_ok_iff, exists_ofExprs_iff, Expr.textual_any]
    exact forall₂_congr ih
  | exist field present =>
    rw [ofExpr]
    exact ⟨fun _ => Expr.textual_exist field present, fun _ => ⟨_, rfl⟩⟩
  | compare field comparison value =>
    rw [ofExpr, exists_ok_iff, exists_comparisonDocument_iff, Expr.textual_compare]

theorem patternText?_eq_some {written : Document} {text : String} :
    patternText? written = some text ↔
      written = [("$regex", .string text), ("$options", .string "i")] := by
  constructor
  · intro read
    unfold patternText? at read
    split at read
    · cases read
      rfl
    · cases read
  · rintro rfl
    rfl

section Reading

variable {field : String} {comparison : Comparison} {value written : Value}

theorem patternDocument_ok (ok : patternDocument field value = .ok written) :
    ∃ text, value = .string text ∧
      written = .document [("$regex", .string text), ("$options", .string "i")] := by
  cases value with
  | string text =>
    cases ok
    exact ⟨text, rfl, rfl⟩
  | _ => cases ok

theorem toExpr?_comparisonDocument (ok : comparisonDocument field value comparison = .ok written) :
    toExpr? [(field, written)] = some (Expr.compare field comparison value).listed := by
  cases comparison with
  | matching =>
    obtain ⟨text, rfl, rfl⟩ := patternDocument_ok ok
    rw [toExpr?, ofField?, Expr.listed_compare (by decide)]
    rfl
  | notMatching =>
    obtain ⟨pattern, made, same⟩ := ok_of_bind ok
    obtain ⟨text, rfl, rfl⟩ := patternDocument_ok made
    cases same
    rw [Value.entry, toExpr?, ofField?, Expr.listed_compare (by decide)]
    rfl
  | among =>
    have same : written = .entry "$in" (.array value.listed) := by
      cases value <;> cases ok <;> rfl
    rw [same, Value.entry, toExpr?, ofField?, Expr.listed]
    rfl
  | eq | ne | gt | gte | lt | lte =>
    cases ok
    rw [Value.entry, toExpr?, ofField?, Expr.listed_compare (by decide)]
    rfl

theorem ofExpr_of_predicate? {fields : Document} {expr : Expr}
    (read : predicate? field fields = some expr) :
    ofExpr expr = .ok [(field, .document fields)] := by
  unfold predicate? at read
  split at read
  · unfold operator? at read
    split at read
    case h_9 pattern =>
      obtain ⟨text, found, rfl⟩ := Option.map_eq_some_iff.1 read
      rw [patternText?_eq_some.1 found, ofExpr]
      rfl
    case h_10 => cases read
    all_goals
      cases read
      rw [ofExpr]
      rfl
  · obtain ⟨text, found, rfl⟩ := Option.map_eq_some_iff.1 read
    rw [patternText?_eq_some.1 found, ofExpr]
    rfl

end Reading

theorem toExprs?_ofExprs {exprs : List Expr} {documents : List Value}
    (each : ∀ expr ∈ exprs, ∀ document, ofExpr expr = .ok document →
      toExpr? document = some expr.listed)
    (written : ofExprs exprs = .ok documents) :
    toExprs? documents = some (exprs.map Expr.listed) := by
  induction exprs generalizing documents with
  | nil =>
    cases written
    rfl
  | cons expr rest ih =>
    obtain ⟨document, first, written⟩ := ok_of_bind written
    obtain ⟨others, later, same⟩ := ok_of_bind written
    cases same
    obtain ⟨head, tail⟩ := List.forall_mem_cons.1 each
    simp only [toExprs?, head document first, ih tail later]
    rfl

theorem toExpr?_ofExpr {expr : Expr} {document : Document} (written : ofExpr expr = .ok document) :
    toExpr? document = some expr.listed := by
  induction expr using Expr.memberInduction generalizing document with
  | all exprs ih =>
    rw [ofExpr] at written
    obtain ⟨documents, members, same⟩ := ok_of_bind written
    cases same
    rw [toExpr?, ofField?, if_pos rfl, toExprs?_ofExprs ih members, Expr.listed,
      Expr.listedEach_eq_map]
    rfl
  | any exprs ih =>
    rw [ofExpr] at written
    obtain ⟨documents, members, same⟩ := ok_of_bind written
    cases same
    rw [toExpr?, ofField?, if_neg (by decide), if_pos rfl, toExprs?_ofExprs ih members, Expr.listed,
      Expr.listedEach_eq_map]
    rfl
  | exist field present =>
    rw [ofExpr] at written
    cases written
    rw [Value.entry, toExpr?, ofField?, Expr.listed]
    rfl
  | compare field comparison value =>
    rw [ofExpr] at written
    obtain ⟨operand, made, same⟩ := ok_of_bind written
    cases same
    exact toExpr?_comparisonDocument made

mutual

/-- The reader accepts nothing but what some expression is written as. -/
theorem ofExpr_toExpr? {expr : Expr} (document : Document) (read : toExpr? document = some expr) :
    ofExpr expr = .ok document := by
  match document with
  | [] => cases read
  | [(key, value)] => exact ofExpr_ofField? value read
  | _ :: _ :: _ => cases read

theorem ofExpr_ofField? {key : String} {expr : Expr} (value : Value)
    (read : ofField? key value = some expr) : ofExpr expr = .ok [(key, value)] := by
  match value with
  | .array items =>
    rw [ofField?] at read
    split at read
    · rename_i group
      obtain ⟨exprs, members, same⟩ := Option.map_eq_some_iff.1 read
      rw [← same, ofExpr, ofExprs_toExprs? items members, group]
      rfl
    · split at read
      · rename_i group
        obtain ⟨exprs, members, same⟩ := Option.map_eq_some_iff.1 read
        rw [← same, ofExpr, ofExprs_toExprs? items members, group]
        rfl
      · cases read
  | .document written => exact ofExpr_of_predicate? read
  | .null | .undefined | .minKey | .maxKey | .bool _ | .int32 _ | .int64 _ | .double _ | .string _
  | .date _ | .objectId _ | .sealed _ => cases read

theorem ofExprs_toExprs? {exprs : List Expr} (items : List Value)
    (read : toExprs? items = some exprs) : ofExprs exprs = .ok items := by
  match items with
  | [] =>
    cases read
    rfl
  | .document document :: rest =>
    rw [toExprs?] at read
    obtain ⟨expr, first, read⟩ := Option.bind_eq_some_iff.1 read
    obtain ⟨others, later, same⟩ := Option.bind_eq_some_iff.1 read
    cases same
    rw [ofExprs, ofExpr_toExpr? document first, ofExprs_toExprs? rest later]
    rfl
  | .null :: _ | .undefined :: _ | .minKey :: _ | .maxKey :: _ | .bool _ :: _ | .int32 _ :: _
  | .int64 _ :: _ | .double _ :: _ | .string _ :: _ | .date _ :: _ | .objectId _ :: _
  | .sealed _ :: _ | .array _ :: _ => cases read

end

/-- The translation loses nothing but the difference between a value and the array of it in a
membership. An expression can be written exactly when every pattern in it, at whatever depth, is a
text. What is written is read as the expression with arrays for memberships, which evaluates and
selects the same; and the reader reads nothing else. -/
theorem ofExpr_faithful (expr : Expr) :
    ((∃ document, ofExpr expr = .ok document) ↔ expr.Textual) ∧
    (∀ document, ofExpr expr = .ok document → toExpr? document = some expr.listed) ∧
    (∀ document cache, expr.listed.evaluate document cache = expr.evaluate document cache) ∧
    (∀ documents, expr.listed.select documents = expr.select documents) ∧
    ∀ document, toExpr? document = some expr → ofExpr expr = .ok document := by
  refine ⟨exists_ofExpr_iff expr, ?_, Expr.evaluate_listed expr, Expr.select_listed expr, ?_⟩
  · intro document written
    exact toExpr?_ofExpr written
  · intro document read
    exact ofExpr_toExpr? document read

def namesakes : Expr :=
  .all [.any [.compare "$and" .among (.string "a")], .compare "$or" .notMatching (.string "("),
    .exist "$regex" false]

def namesakesDocument : Document :=
  [("$and", .array
    [.document [("$or", .array [.document [("$and", .entry "$in" (.array [.string "a"]))]])],
      .document [("$or", .entry "$not" (.document [("$regex", .string "("),
        ("$options", .string "i")]))],
      .document [("$regex", .entry "$exists" (.bool false))]])]

theorem ofExpr_faithful_namesakes :
    ofExpr namesakes = .ok namesakesDocument ∧ namesakes.Textual ∧
      toExpr? namesakesDocument = some (.all
        [.any [.compare "$and" .among (.array [.string "a"])],
          .compare "$or" .notMatching (.string "("), .exist "$regex" false]) := by
  obtain ⟨writable, decoded, _⟩ := ofExpr_faithful namesakes
  have written : ofExpr namesakes = .ok namesakesDocument := rfl
  exact ⟨written, writable.1 ⟨_, written⟩, decoded _ written⟩

end OperatorDocument

end DocumentQuery
