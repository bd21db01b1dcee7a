import DocumentQuery.OperatorDocument
import DocumentQuery.Proofs.Action
import DocumentQuery.Proofs.Plan.Compiled

/-! Readable expressions. The only thing that can go wrong with an expression is a
pattern that is no text or cannot be read. Whatever compiles from the filters of a
request is readable, so it has a verdict on every document and can be written as an
operator document.
-/

set_option autoImplicit false

namespace DocumentQuery

def Comparison.isPattern : Comparison → Bool
  | .matching | .notMatching => true
  | _ => false

/-- Every pattern of an expression is a text that can be read. -/
inductive Expr.Readable : Expr → Prop
  | all {exprs : List Expr} : (∀ expr ∈ exprs, Readable expr) → Readable (.all exprs)
  | any {exprs : List Expr} : (∀ expr ∈ exprs, Readable expr) → Readable (.any exprs)
  | exist {field : String} {present : Bool} : Readable (.exist field present)
  | compare {field : String} {comparison : Comparison} {value : Value} :
      comparison.isPattern = false → Readable (.compare field comparison value)
  | pattern {field text : String} {comparison : Comparison} :
      (Pattern.read? text).isSome = true → Readable (.compare field comparison (.string text))

namespace Expr

theorem exists_read {text : String} (readable : (Pattern.read? text).isSome = true)
    (cache : PatternCache) : ∃ node next, cache.read text = .ok (node, next) := by
  obtain ⟨fresh, read⟩ := Option.isSome_iff_exists.1 readable
  cases remembered : cache.lookup text with
  | some node => exact ⟨node, cache, PatternCache.read_of_lookup remembered⟩
  | none => exact ⟨fresh, (text, fresh) :: cache, PatternCache.read_of_fresh remembered read⟩

theorem exists_matchPattern {text : String} (readable : (Pattern.read? text).isSome = true)
    (document : Document) (field : String) (cache : PatternCache) :
    ∃ verdict, matchPattern document field cache (.string text) = .ok verdict := by
  obtain ⟨node, next, read⟩ := exists_read readable cache
  exact ⟨(document.hasMatch field node, next), by simp only [matchPattern, read]; rfl⟩

theorem exists_evaluateAll {exprs : List Expr} {document : Document}
    (each : ∀ expr ∈ exprs, ∀ cache, ∃ verdict, expr.evaluate document cache = .ok verdict)
    (cache : PatternCache) : ∃ verdict, evaluateAll document cache exprs = .ok verdict := by
  induction exprs generalizing cache with
  | nil => exact ⟨_, rfl⟩
  | cons expr rest ih =>
    obtain ⟨⟨holds, next⟩, first⟩ := each expr List.mem_cons_self cache
    obtain ⟨verdict, later⟩ :=
      ih (fun other there => each other (List.mem_cons_of_mem _ there)) next
    rw [evaluateAll, first]
    cases holds with
    | true => exact ⟨verdict, later⟩
    | false => exact ⟨_, rfl⟩

theorem exists_evaluateAny {exprs : List Expr} {document : Document}
    (each : ∀ expr ∈ exprs, ∀ cache, ∃ verdict, expr.evaluate document cache = .ok verdict)
    (cache : PatternCache) : ∃ verdict, evaluateAny document cache exprs = .ok verdict := by
  induction exprs generalizing cache with
  | nil => exact ⟨_, rfl⟩
  | cons expr rest ih =>
    obtain ⟨⟨holds, next⟩, first⟩ := each expr List.mem_cons_self cache
    obtain ⟨verdict, later⟩ :=
      ih (fun other there => each other (List.mem_cons_of_mem _ there)) next
    rw [evaluateAny, first]
    cases holds with
    | true => exact ⟨_, rfl⟩
    | false => exact ⟨verdict, later⟩

theorem Readable.exists_evaluate {expr : Expr} (readable : expr.Readable) (document : Document)
    (cache : PatternCache) : ∃ verdict, expr.evaluate document cache = .ok verdict := by
  induction readable generalizing cache with
  | all _ ih =>
    rw [evaluate]
    exact exists_evaluateAll ih cache
  | any _ ih =>
    rw [evaluate]
    exact exists_evaluateAny ih cache
  | exist => exact ⟨_, by rw [evaluate]⟩
  | @compare field comparison value plain =>
    rw [evaluate]
    cases comparison with
    | matching | notMatching => cases plain
    | _ => exact ⟨_, rfl⟩
  | @pattern field text comparison read =>
    rw [evaluate]
    obtain ⟨verdict, matched⟩ := exists_matchPattern read document field cache
    cases comparison with
    | matching => exact ⟨verdict, matched⟩
    | notMatching =>
      exact ⟨(! verdict.1, verdict.2), by simp only [evaluateComparison, matched]; rfl⟩
    | _ => exact ⟨_, rfl⟩

theorem Readable.exists_selectFrom {expr : Expr} (readable : expr.Readable)
    (documents : List Document) (cache : PatternCache) :
    ∃ selected, expr.selectFrom cache documents = .ok selected := by
  induction documents generalizing cache with
  | nil => exact ⟨[], rfl⟩
  | cons document rest ih =>
    obtain ⟨⟨holds, next⟩, verdict⟩ := readable.exists_evaluate document cache
    obtain ⟨selected, later⟩ := ih next
    rw [selectFrom, verdict]
    simp only [bind, Except.bind, later]
    exact ⟨_, rfl⟩

end Expr

namespace OperatorDocument

theorem exists_ofExprs {exprs : List Expr}
    (each : ∀ expr ∈ exprs, ∃ document, ofExpr expr = .ok document) :
    ∃ documents, ofExprs exprs = .ok documents := by
  induction exprs with
  | nil => exact ⟨[], rfl⟩
  | cons expr rest ih =>
    obtain ⟨document, first⟩ := each expr List.mem_cons_self
    obtain ⟨documents, later⟩ := ih fun other there => each other (List.mem_cons_of_mem _ there)
    rw [ofExprs, first]
    simp only [bind, Except.bind, later]
    exact ⟨_, rfl⟩

theorem exists_ofExpr {expr : Expr} (readable : expr.Readable) :
    ∃ document, ofExpr expr = .ok document := by
  induction readable with
  | all _ ih =>
    obtain ⟨documents, written⟩ := exists_ofExprs ih
    rw [ofExpr, written]
    exact ⟨_, rfl⟩
  | any _ ih =>
    obtain ⟨documents, written⟩ := exists_ofExprs ih
    rw [ofExpr, written]
    exact ⟨_, rfl⟩
  | exist => exact ⟨_, by rw [ofExpr]⟩
  | @compare field comparison value plain =>
    rw [ofExpr]
    cases comparison with
    | matching | notMatching => cases plain
    | among => cases value <;> exact ⟨_, rfl⟩
    | _ => exact ⟨_, rfl⟩
  | @pattern field text comparison =>
    rw [ofExpr]
    cases comparison <;> exact ⟨_, rfl⟩

end OperatorDocument

namespace Filter

def Sound (operator : Operator) (value : Value) : Prop :=
  ∀ comparison, operator = .compare comparison → comparison.isPattern = true →
    ∃ text, value = .string text ∧ (Pattern.read? text).isSome = true

theorem sound_compare {comparison : Comparison} (value : Value)
    (plain : comparison.isPattern = false) : Sound (.compare comparison) value := by
  intro other same asks
  cases same
  rw [plain] at asks
  cases asks

theorem isPattern_comparison (mark : Mark) : mark.comparison.isPattern = false := by
  cases mark <;> rfl

theorem sound_pattern {text : String} {value : Value} (read : pattern text = .ok value)
    (comparison : Comparison) : Sound (.compare comparison) value := by
  intro _ _ _
  rw [pattern] at read
  split at read
  · rename_i readable
    cases read
    exact ⟨text, rfl, readable⟩
  · cases read

theorem sound_identifierOperand {text : String} {operator : Operator} {value : Value}
    (read : identifierOperand text = .ok (operator, value)) : Sound operator value := by
  rw [identifierOperand] at read
  split at read
  · cases read
    nofun
  · cases read
    nofun
  · split at read
    · obtain ⟨items, _, same⟩ := ok_of_bind read
      cases same
      exact sound_compare _ rfl
    · obtain ⟨id, _, same⟩ := ok_of_bind read
      cases same
      exact sound_compare _ (isPattern_comparison _)

theorem sound_typedOperand {text : String} {type : Option FieldType} {operator : Operator}
    {value : Value} (read : typedOperand text type = .ok (operator, value)) :
    Sound operator value := by
  simp only [typedOperand] at read
  split at read
  · cases read
    nofun
  · cases read
    nofun
  · split at read
    · obtain ⟨_, read, same⟩ := ok_of_bind read
      cases same
      exact sound_pattern read _
    · obtain ⟨_, _, same⟩ := ok_of_bind read
      cases same
      exact sound_compare _ rfl
  · split at read
    · obtain ⟨_, read, same⟩ := ok_of_bind read
      cases same
      exact sound_pattern read _
    · obtain ⟨_, _, same⟩ := ok_of_bind read
      cases same
      exact sound_compare _ rfl
  · obtain ⟨_, _, same⟩ := ok_of_bind read
    cases same
    exact sound_compare _ (isPattern_comparison _)

theorem sound_operand {text : String} {type : Option FieldType} {operator : Operator}
    {value : Value} (read : operand text type = .ok (operator, value)) : Sound operator value := by
  rw [operand] at read
  split at read
  · exact sound_identifierOperand read
  · exact sound_typedOperand read

theorem readable_expr {clause : Clause} (sound : Sound clause.operator clause.value) :
    clause.expr.Readable := by
  obtain ⟨field, combinator, operator, value⟩ := clause
  cases operator with
  | exist => exact .exist
  | notExist => exact .exist
  | compare comparison =>
    cases asks : comparison.isPattern with
    | true =>
      obtain ⟨text, same, readable⟩ := sound comparison rfl asks
      cases same
      cases comparison with
      | matching | notMatching => exact .pattern readable
      | _ => cases asks
    | false =>
      cases comparison with
      | among => cases value <;> exact .compare rfl
      | matching | notMatching => cases asks
      | _ => exact .compare rfl

theorem readable_predicate {clause : Clause} (readable : clause.expr.Readable) :
    clause.predicate.Readable := by
  rw [Clause.predicate]
  cases clause.combinator with
  | independent => exact readable
  | and => exact .all (List.forall_mem_singleton.2 readable)
  | or => exact .any (List.forall_mem_singleton.2 readable)

section Compilation

variable {primaryKey : String} {schema : Schema}

def compileOne (primaryKey : String) (schema : Schema) (parameter : String × String) :
    Except AccessError (Option Clause) :=
  match fieldOf? parameter.1 with
  | some field => compileClause primaryKey schema field parameter.2
  | none => .ok none

theorem compile_cons (parameter : String × String) (rest : Parameters) :
    compile primaryKey schema (parameter :: rest) = do
      let clause ← compileOne primaryKey schema parameter
      return clause.toList ++ (← compile primaryKey schema rest) := by
  rw [compile, compileOne]
  cases fieldOf? parameter.1 <;> rfl

theorem readable_compileOne {parameter : String × String} {clause : Clause}
    (compiled : compileOne primaryKey schema parameter = .ok (some clause)) :
    clause.expr.Readable := by
  rw [compileOne] at compiled
  split at compiled
  · rw [compileClause] at compiled
    split at compiled
    · cases compiled
    · obtain ⟨⟨operator, operand⟩, read, same⟩ := ok_of_bind compiled
      cases same
      exact readable_expr (sound_operand read)
  · cases compiled

theorem readable_compile {parameters : Parameters} {clauses : List Clause}
    (compiled : compile primaryKey schema parameters = .ok clauses) :
    ∀ clause ∈ clauses, clause.expr.Readable := by
  induction parameters generalizing clauses with
  | nil =>
    cases compiled
    nofun
  | cons parameter rest ih =>
    rw [compile_cons] at compiled
    obtain ⟨first, one, compiled⟩ := ok_of_bind compiled
    obtain ⟨others, more, same⟩ := ok_of_bind compiled
    cases same
    intro clause there
    rcases List.mem_append.1 there with here | there
    · rw [Option.mem_toList.1 here] at one
      exact readable_compileOne one
    · exact ih more clause there

end Compilation

end Filter

theorem Draft.readable_of_filterOf {exprs : List Expr} {filter : Expr}
    (joined : filterOf exprs = some filter) (each : ∀ expr ∈ exprs, expr.Readable) :
    filter.Readable := by
  rcases exprs with _ | ⟨expr, _ | ⟨next, rest⟩⟩
  · cases joined
  · cases joined
    exact each filter List.mem_cons_self
  · cases joined
    exact .all each

theorem Plan.readable_of_compile {registry : Registry} {settings : Settings} {collection : String}
    {parameters : Parameters} {context : Context} {plan : Plan}
    (compiled : compile registry settings collection parameters context = .ok plan) :
    ∀ filter ∈ plan.query.filter, filter.Readable := by
  obtain ⟨schema, since, clauses, _, _, filters, rfl⟩ := compile_eq_ok_iff.1 compiled
  have each : ∀ expr ∈ (since.map (syncCondition settings)).toList ++
      clauses.map Clause.predicate, expr.Readable := by
    intro expr there
    rcases List.mem_append.1 there with condition | there
    · obtain ⟨bound, _, rfl⟩ := Option.map_eq_some_iff.1 (Option.mem_toList.1 condition)
      exact .compare rfl
    · obtain ⟨clause, listed, rfl⟩ := List.mem_map.1 there
      exact Filter.readable_predicate (Filter.readable_compile filters clause listed)
  intro filter there
  exact Draft.readable_of_filterOf (Option.mem_def.1 there) each

end DocumentQuery
