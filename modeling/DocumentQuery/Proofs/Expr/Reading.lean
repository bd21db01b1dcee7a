import DocumentQuery.Proofs.Expr.Translation
import DocumentQuery.Proofs.Filter.Conjunction
import DocumentQuery.Proofs.Filter.Rendered

/-! How expressions are read. A comparison holds when one of the values that its field reaches
satisfies it, and a negated one holds when the other does not. Groups are read from left to right
and no further than needed; the reading of a document stumbles over a pattern that is no text or
cannot be read, if it gets there. An expression comes to what its evaluation without a cache does.
-/

set_option autoImplicit false

namespace DocumentQuery

/-- The values that a field of a document reaches: those at its path, and the elements of the arrays
among them. -/
inductive Document.Reaches (document : Document) (field : String) : Value → Prop
  | value {value : Value} :
      value ∈ document.valuesAt (Path.ofText field) → Reaches document field value
  | element {items : List Value} {item : Value} :
      .array items ∈ document.valuesAt (Path.ofText field) → item ∈ items →
      Reaches document field item

def Comparison.admits : Comparison → Ordering → Bool
  | .gt, order => order == .gt
  | .gte, order => order != .lt
  | .lt, order => order == .lt
  | .lte, order => order != .gt
  | _, _ => false

inductive Value.Satisfies : (value : Value) → Comparison → (operand : Value) → Prop
  | eq {value operand : Value} : value.same operand = true → Satisfies value .eq operand
  | ordered {value operand : Value} {comparison : Comparison} {order : Ordering} :
      value.compare? operand = some order → comparison.admits order = true →
      Satisfies value comparison operand
  | matching {text pattern : String} {node : Pattern.Node} :
      Pattern.read? pattern = some node → node.occursIn text = true →
      Satisfies (.string text) .matching (.string pattern)
  | among {value operand item : Value} :
      item ∈ operand.listed → value.same item = true → Satisfies value .among operand

namespace Expr

/-- What reading an expression on a document comes to. -/
inductive Reads (document : Document) : Expr → Bool → Prop
  | all {exprs : List Expr} :
      (∀ expr ∈ exprs, Reads document expr true) → Reads document (.all exprs) true
  | allUpTo {before after : List Expr} {expr : Expr} :
      (∀ other ∈ before, Reads document other true) → Reads document expr false →
      Reads document (.all (before ++ expr :: after)) false
  | any {exprs : List Expr} :
      (∀ expr ∈ exprs, Reads document expr false) → Reads document (.any exprs) false
  | anyUpTo {before after : List Expr} {expr : Expr} :
      (∀ other ∈ before, Reads document other false) → Reads document expr true →
      Reads document (.any (before ++ expr :: after)) true
  | exist {field : String} {present : Bool} {value : Value} :
      document.Reaches field value → Reads document (.exist field present) present
  | absent {field : String} {present : Bool} :
      (∀ value, ¬ document.Reaches field value) → Reads document (.exist field present) (! present)
  | found {field : String} {comparison : Comparison} {operand value : Value} :
      document.Reaches field value → value.Satisfies comparison operand →
      Reads document (.compare field comparison operand) true
  | missed {field : String} {comparison : Comparison} {operand : Value} :
      comparison ≠ .ne → comparison ≠ .notMatching →
      (comparison = .matching →
        ∃ text, operand = .string text ∧ (Pattern.read? text).isSome = true) →
      (∀ value, document.Reaches field value → ¬ value.Satisfies comparison operand) →
      Reads document (.compare field comparison operand) false
  | ne {field : String} {operand : Value} {holds : Bool} :
      Reads document (.compare field .eq operand) holds →
      Reads document (.compare field .ne operand) (! holds)
  | notMatching {field : String} {operand : Value} {holds : Bool} :
      Reads document (.compare field .matching operand) holds →
      Reads document (.compare field .notMatching operand) (! holds)

/-- Reading an expression on a document gets to a pattern that is refused. -/
inductive Stumbles (document : Document) : Expr → AccessError → Prop
  | all {before after : List Expr} {expr : Expr} {error : AccessError} :
      (∀ other ∈ before, Reads document other true) → Stumbles document expr error →
      Stumbles document (.all (before ++ expr :: after)) error
  | any {before after : List Expr} {expr : Expr} {error : AccessError} :
      (∀ other ∈ before, Reads document other false) → Stumbles document expr error →
      Stumbles document (.any (before ++ expr :: after)) error
  | notText {field : String} {comparison : Comparison} {operand : Value} :
      comparison.isPattern = true → (∀ text, operand ≠ .string text) →
      Stumbles document (.compare field comparison operand) (.patternNotText field)
  | unreadable {field : String} {comparison : Comparison} {text : String} :
      comparison.isPattern = true → Pattern.read? text = none →
      Stumbles document (.compare field comparison (.string text)) (.invalidPattern text)

end Expr

section Leaves

variable {document : Document} {field : String}

theorem Document.mem_candidates_iff {value : Value} :
    value ∈ document.candidates field ↔ document.Reaches field value := by
  rw [candidates, List.mem_flatMap]
  constructor
  · rintro ⟨held, there, listed⟩
    cases held with
    | array items =>
      rcases List.mem_cons.1 listed with rfl | inside
      · exact .value there
      · exact .element there inside
    | _ =>
      obtain rfl := List.mem_singleton.1 listed
      exact .value there
  · rintro (there | ⟨there, inside⟩)
    · refine ⟨value, there, ?_⟩
      cases value with
      | array items => exact List.mem_cons_self
      | _ => exact List.mem_singleton_self _
    · exact ⟨_, there, List.mem_cons_of_mem _ inside⟩

theorem Document.any_candidates {accepts : Value → Bool} {Accepted : Value → Prop}
    (each : ∀ value, accepts value = true ↔ Accepted value) :
    (document.candidates field).any accepts = true ↔
      ∃ value, document.Reaches field value ∧ Accepted value := by
  simp only [List.any_eq_true, mem_candidates_iff, each]

theorem Document.hasEqual_iff {operand : Value} : document.hasEqual field operand = true ↔
    ∃ value, document.Reaches field value ∧ value.Satisfies .eq operand := by
  refine any_candidates fun value => ⟨.eq, fun satisfied => ?_⟩
  cases satisfied with
  | eq same => exact same
  | ordered _ admitted => cases admitted

theorem Document.hasOrdered_iff {comparison : Comparison} (orders : comparison.orders = true)
    {operand : Value} : document.hasOrdered field operand comparison.admits = true ↔
      ∃ value, document.Reaches field value ∧ value.Satisfies comparison operand := by
  refine any_candidates fun value => ?_
  rw [Option.any_eq_true]
  constructor
  · rintro ⟨order, found, admitted⟩
    exact .ordered found admitted
  · intro satisfied
    cases satisfied with
    | ordered found admitted => exact ⟨_, found, admitted⟩
    | eq | matching | among => cases orders

theorem Document.hasMember_iff {operand : Value} : document.hasMember field operand = true ↔
    ∃ value, document.Reaches field value ∧ value.Satisfies .among operand := by
  rw [← Expr.hasMember_listed, hasMember, List.any_eq_true]
  constructor
  · rintro ⟨item, listed, equal⟩
    obtain ⟨value, reached, same⟩ := (any_candidates fun _ => Iff.rfl).1 equal
    exact ⟨value, reached, .among listed same⟩
  · rintro ⟨value, reached, satisfied⟩
    cases satisfied with
    | among listed same =>
      exact ⟨_, listed, (any_candidates fun _ => Iff.rfl).2 ⟨value, reached, same⟩⟩
    | ordered _ admitted => cases admitted

theorem Document.hasMatch_iff {pattern : String} {node : Pattern.Node}
    (read : Pattern.read? pattern = some node) : document.hasMatch field node = true ↔
      ∃ value, document.Reaches field value ∧ value.Satisfies .matching (.string pattern) := by
  refine any_candidates fun value => ?_
  constructor
  · intro occurs
    cases value with
    | string text => exact .matching read occurs
    | _ => cases occurs
  · intro satisfied
    cases satisfied with
    | matching again occurs =>
      rw [read] at again
      cases again
      exact occurs
    | ordered _ admitted => cases admitted

theorem Document.exists_compares (document : Document) (field : String) {comparison : Comparison}
    {operand : Value}
    (equal : comparison ≠ .ne) (matched : comparison ≠ .notMatching)
    (readable : comparison = .matching →
      ∃ text, operand = .string text ∧ (Pattern.read? text).isSome = true) :
    ∃ holds, document.compares field comparison operand = .ok holds ∧ (holds = true ↔
      ∃ value, document.Reaches field value ∧ value.Satisfies comparison operand) := by
  cases comparison with
  | eq => exact ⟨_, rfl, hasEqual_iff⟩
  | ne => exact absurd rfl equal
  | gt => exact ⟨_, rfl, hasOrdered_iff (rfl : Comparison.gt.orders = true)⟩
  | gte => exact ⟨_, rfl, hasOrdered_iff (rfl : Comparison.gte.orders = true)⟩
  | lt => exact ⟨_, rfl, hasOrdered_iff (rfl : Comparison.lt.orders = true)⟩
  | lte => exact ⟨_, rfl, hasOrdered_iff (rfl : Comparison.lte.orders = true)⟩
  | matching =>
    obtain ⟨text, rfl, read⟩ := readable rfl
    obtain ⟨node, read⟩ := Option.isSome_iff_exists.1 read
    refine ⟨document.hasMatch field node, ?_, hasMatch_iff read⟩
    simp only [compares, matching, Pattern.ofText, read]
    rfl
  | notMatching => exact absurd rfl matched
  | among => exact ⟨_, rfl, hasMember_iff⟩

theorem Value.Satisfies.readable {value operand : Value} {comparison : Comparison}
    (satisfied : value.Satisfies comparison operand) :
    comparison ≠ .ne ∧ comparison ≠ .notMatching ∧ (comparison = .matching →
      ∃ text, operand = .string text ∧ (Pattern.read? text).isSome = true) := by
  cases satisfied with
  | eq | among => exact ⟨by decide, by decide, fun other => by cases other⟩
  | ordered _ admitted =>
    refine ⟨?_, ?_, ?_⟩ <;>
    · rintro rfl
      cases admitted
  | matching read =>
    exact ⟨by decide, by decide, fun _ => ⟨_, rfl, Option.isSome_iff_exists.2 ⟨_, read⟩⟩⟩

end Leaves

theorem forall_mem_or_first {α : Type} (holds : α → Prop) (items : List α) :
    (∀ item ∈ items, holds item) ∨ ∃ before item after, items = before ++ item :: after ∧
      (∀ other ∈ before, holds other) ∧ ¬ holds item := by
  induction items with
  | nil => exact .inl fun _ there => absurd there List.not_mem_nil
  | cons first rest ih =>
    by_cases here : holds first
    · rcases ih with all | ⟨before, item, after, rfl, earlier, fails⟩
      · exact .inl (List.forall_mem_cons.2 ⟨here, all⟩)
      · exact .inr
          ⟨first :: before, item, after, rfl, List.forall_mem_cons.2 ⟨here, earlier⟩, fails⟩
    · exact .inr ⟨[], first, rest, rfl, fun _ there => absurd there List.not_mem_nil, here⟩

namespace Expr

section Readings

variable {document : Document}

def verdictWhile (document : Document) (goes : Bool) : List Expr → Except AccessError Bool
  | [] => .ok goes
  | expr :: rest => do
    let holds ← expr.verdict document
    if holds = goes then verdictWhile document goes rest else return holds

theorem verdictAll_eq_while (exprs : List Expr) :
    verdictAll document exprs = verdictWhile document true exprs := by
  induction exprs with
  | nil => rfl
  | cons expr rest ih =>
    rw [verdictAll, verdictWhile, ih]
    rcases expr.verdict document with error | _ | _ <;> rfl

theorem verdictAny_eq_while (exprs : List Expr) :
    verdictAny document exprs = verdictWhile document false exprs := by
  induction exprs with
  | nil => rfl
  | cons expr rest ih =>
    rw [verdictAny, verdictWhile, ih]
    rcases expr.verdict document with error | _ | _ <;> rfl

theorem verdictWhile_append {goes : Bool} {before : List Expr}
    (same : ∀ other ∈ before, other.verdict document = .ok goes) (rest : List Expr) :
    verdictWhile document goes (before ++ rest) = verdictWhile document goes rest := by
  induction before with
  | nil => rfl
  | cons first before ih =>
    obtain ⟨here, same⟩ := List.forall_mem_cons.1 same
    rw [List.cons_append, verdictWhile, here, ← ih same]
    exact if_pos rfl

theorem verdictWhile_of_forall {goes : Bool} {exprs : List Expr}
    (same : ∀ expr ∈ exprs, expr.verdict document = .ok goes) :
    verdictWhile document goes exprs = .ok goes := by
  rw [← List.append_nil exprs, verdictWhile_append same]
  rfl

theorem verdictWhile_of_first {goes : Bool} {before : List Expr} {expr : Expr}
    (same : ∀ other ∈ before, other.verdict document = .ok goes)
    (other : expr.verdict document ≠ .ok goes) (after : List Expr) :
    verdictWhile document goes (before ++ expr :: after) = expr.verdict document := by
  rw [verdictWhile_append same, verdictWhile]
  cases found : expr.verdict document with
  | error error => rfl
  | ok holds =>
    refine if_neg fun equal => other ?_
    rw [found, equal]

theorem verdict_of_reads {expr : Expr} {holds : Bool} (reads : Reads document expr holds) :
    expr.verdict document = .ok holds := by
  induction reads with
  | all _ ih => rw [verdict, verdictAll_eq_while, verdictWhile_of_forall ih]
  | allUpTo _ _ ih ih' =>
    rw [verdict, verdictAll_eq_while, verdictWhile_of_first ih (by rw [ih']; decide), ih']
  | any _ ih => rw [verdict, verdictAny_eq_while, verdictWhile_of_forall ih]
  | anyUpTo _ _ ih ih' =>
    rw [verdict, verdictAny_eq_while, verdictWhile_of_first ih (by rw [ih']; decide), ih']
  | exist reached =>
    have some := List.isEmpty_eq_false_iff.2
      (List.ne_nil_of_mem (Document.mem_candidates_iff.2 reached))
    rw [verdict, some, Bool.false_bne]
  | absent none =>
    have empty := List.isEmpty_iff.2 (List.eq_nil_iff_forall_not_mem.2 fun value there =>
      none value (Document.mem_candidates_iff.1 there))
    rw [verdict, empty, Bool.true_bne]
  | @found field comparison operand value reached satisfied =>
    obtain ⟨equal, matched, readable⟩ := satisfied.readable
    obtain ⟨holds, same, meaning⟩ := document.exists_compares field equal matched readable
    rw [verdict, same, meaning.2 ⟨value, reached, satisfied⟩]
  | @missed field comparison operand equal matched readable none =>
    obtain ⟨holds, same, meaning⟩ := document.exists_compares field equal matched readable
    rw [verdict, same, Except.ok.injEq, Bool.eq_false_iff, Ne, meaning]
    rintro ⟨value, reached, satisfied⟩
    exact none value reached satisfied
  | ne _ ih =>
    simp only [verdict, Document.compares, Except.ok.injEq] at ih ⊢
    rw [ih]
  | notMatching _ ih =>
    simp only [verdict, Document.compares] at ih ⊢
    rw [ih]
    rfl

theorem compares_of_refused {field : String} {comparison : Comparison} {operand : Value}
    {error : AccessError} (asks : comparison.isPattern = true)
    (refused : document.matching field operand = .error error) :
    document.compares field comparison operand = .error error := by
  cases comparison with
  | matching => exact refused
  | notMatching =>
    rw [Document.compares, refused]
    rfl
  | _ => cases asks

theorem verdict_of_stumbles {expr : Expr} {error : AccessError}
    (stumbles : Stumbles document expr error) : expr.verdict document = .error error := by
  induction stumbles with
  | all before _ ih =>
    have same := fun other there => verdict_of_reads (before other there)
    rw [verdict, verdictAll_eq_while, verdictWhile_of_first same (by simp [ih]), ih]
  | any before _ ih =>
    have same := fun other there => verdict_of_reads (before other there)
    rw [verdict, verdictAny_eq_while, verdictWhile_of_first same (by simp [ih]), ih]
  | @notText field comparison operand asks other =>
    have refused : document.matching field operand = .error (.patternNotText field) := by
      cases operand with
      | string text => exact absurd rfl (other text)
      | _ => rfl
    rw [verdict, compares_of_refused asks refused]
  | @unreadable field comparison text asks none =>
    have refused : document.matching field (.string text) = .error (.invalidPattern text) := by
      rw [Document.matching, Pattern.ofText, none]
      rfl
    rw [verdict, compares_of_refused asks refused]

theorem reads_of_readable {field : String} {comparison : Comparison} {operand : Value}
    (equal : comparison ≠ .ne) (matched : comparison ≠ .notMatching)
    (readable : comparison = .matching →
      ∃ text, operand = .string text ∧ (Pattern.read? text).isSome = true) :
    ∃ holds, Reads document (.compare field comparison operand) holds := by
  by_cases some : ∃ value, document.Reaches field value ∧ value.Satisfies comparison operand
  · obtain ⟨value, reached, satisfied⟩ := some
    exact ⟨true, .found reached satisfied⟩
  · exact ⟨false, .missed equal matched readable fun value reached satisfied =>
      some ⟨value, reached, satisfied⟩⟩

theorem pattern_reads_or_stumbles (document : Document) (field : String) (operand : Value) :
    (∃ holds, Reads document (.compare field .matching operand) holds) ∨
      ∃ error, ∀ comparison, comparison.isPattern = true →
        Stumbles document (.compare field comparison operand) error := by
  by_cases text : ∃ text, operand = .string text
  · obtain ⟨text, rfl⟩ := text
    cases read : Pattern.read? text with
    | none => exact .inr ⟨_, fun comparison asks => .unreadable asks read⟩
    | some node =>
      refine .inl (reads_of_readable (by decide) (by decide) fun _ => ⟨text, rfl, ?_⟩)
      rw [read]
      rfl
  · exact .inr ⟨_, fun comparison asks => .notText asks fun written same => text ⟨written, same⟩⟩

/-- Reading an expression on a document comes to something unless it stumbles. -/
theorem reads_or_stumbles (document : Document) (expr : Expr) :
    (∃ holds, Reads document expr holds) ∨ ∃ error, Stumbles document expr error := by
  induction expr using memberInduction with
  | all exprs ih =>
    rcases forall_mem_or_first (Reads document · true) exprs with
      all | ⟨before, expr, after, rfl, earlier, other⟩
    · exact .inl ⟨true, .all all⟩
    · rcases ih expr (List.mem_append_right _ List.mem_cons_self) with
        ⟨_ | _, reads⟩ | ⟨error, stumbles⟩
      · exact .inl ⟨false, .allUpTo earlier reads⟩
      · exact absurd reads other
      · exact .inr ⟨error, .all earlier stumbles⟩
  | any exprs ih =>
    rcases forall_mem_or_first (Reads document · false) exprs with
      none | ⟨before, expr, after, rfl, earlier, other⟩
    · exact .inl ⟨false, .any none⟩
    · rcases ih expr (List.mem_append_right _ List.mem_cons_self) with
        ⟨_ | _, reads⟩ | ⟨error, stumbles⟩
      · exact absurd reads other
      · exact .inl ⟨true, .anyUpTo earlier reads⟩
      · exact .inr ⟨error, .any earlier stumbles⟩
  | exist field present =>
    by_cases some : ∃ value, document.Reaches field value
    · obtain ⟨value, reached⟩ := some
      exact .inl ⟨present, .exist reached⟩
    · exact .inl ⟨! present, .absent fun value reached => some ⟨value, reached⟩⟩
  | compare field comparison operand =>
    cases comparison with
    | eq | gt | gte | lt | lte | among =>
      exact .inl (reads_of_readable (by decide) (by decide) fun other => by cases other)
    | ne =>
      have literal : Comparison.eq ≠ .matching := by decide
      obtain ⟨holds, reads⟩ := @reads_of_readable document field .eq operand (by decide) (by decide)
        fun other => absurd other literal
      exact .inl ⟨! holds, .ne reads⟩
    | matching =>
      rcases pattern_reads_or_stumbles document field operand with reads | ⟨error, stumbles⟩
      · exact .inl reads
      · exact .inr ⟨error, stumbles .matching rfl⟩
    | notMatching =>
      rcases pattern_reads_or_stumbles document field operand with
        ⟨holds, reads⟩ | ⟨error, stumbles⟩
      · exact .inl ⟨! holds, .notMatching reads⟩
      · exact .inr ⟨error, stumbles .notMatching rfl⟩

theorem reads_iff {expr : Expr} {holds : Bool} :
    Reads document expr holds ↔ expr.verdict document = .ok holds := by
  refine ⟨verdict_of_reads, fun found => ?_⟩
  rcases reads_or_stumbles document expr with ⟨other, reads⟩ | ⟨error, stumbles⟩
  · rw [verdict_of_reads reads] at found
    cases found
    exact reads
  · rw [verdict_of_stumbles stumbles] at found
    cases found

theorem stumbles_iff {expr : Expr} {error : AccessError} :
    Stumbles document expr error ↔ expr.verdict document = .error error := by
  refine ⟨verdict_of_stumbles, fun found => ?_⟩
  rcases reads_or_stumbles document expr with ⟨holds, reads⟩ | ⟨other, stumbles⟩
  · rw [verdict_of_reads reads] at found
    cases found
  · rw [verdict_of_stumbles stumbles] at found
    cases found
    exact stumbles

/-- Only patterns are stumbled over, and they are the fault of whoever wrote them. -/
theorem Stumbles.kind_eq {expr : Expr} {error : AccessError}
    (stumbles : Stumbles document expr error) : error.kind = .invalidArgument := by
  induction stumbles with
  | all _ _ ih | any _ _ ih => exact ih
  | notText | unreadable => rfl

end Readings

end Expr

end DocumentQuery
