import DocumentQuery.Proofs.Expr.Verdict
import DocumentQuery.Proofs.Filter.Readable
import Mathlib.Data.List.Forall2

/-! Filters as conjunctions. The clauses of a request become nothing, one predicate or a group
of predicates, and a clause may stand in a group of its own. None of this shows in what is
selected: a document is selected exactly when each clause by itself accepts it. So neither the
order of the parameters nor the way their clauses are joined matters, and further parameters
only take documents away.
-/

set_option autoImplicit false

namespace DocumentQuery

deriving instance DecidableEq for Clause

namespace Expr

/-- Whether an expression holds on a document; where it fails it does not hold. -/
def holds (expr : Expr) (document : Document) : Bool :=
  match expr.verdict document with
  | .ok holds => holds
  | .error _ => false

theorem holds_eq_true_iff {expr : Expr} {document : Document} :
    expr.holds document = true ↔ expr.verdict document = .ok true := by
  rw [holds]
  cases expr.verdict document <;> simp

theorem Readable.verdict_eq {expr : Expr} (readable : expr.Readable) (document : Document) :
    expr.verdict document = .ok (expr.holds document) := by
  obtain ⟨found, evaluated⟩ := readable.exists_evaluate document []
  have agreed := evaluate_agrees document PatternCache.sound_nil expr
  rw [holds]
  rw [evaluated] at agreed
  generalize expr.verdict document = plain at agreed
  cases agreed
  rfl

theorem Readable.select_eq {expr : Expr} (readable : expr.Readable) (documents : List Document) :
    expr.select documents = .ok (documents.filter expr.holds) :=
  select_of_verdict fun document _ => readable.verdict_eq document

end Expr

theorem Clause.verdict_predicate (clause : Clause) (document : Document) :
    clause.predicate.verdict document = clause.expr.verdict document := by
  rw [predicate]
  cases clause.combinator with
  | independent => rfl
  | and => exact Expr.verdictAll_singleton clause.expr
  | or => exact Expr.verdictAny_singleton clause.expr

theorem Draft.verdict_of_filterOf {exprs : List Expr} {filter : Expr}
    (joined : filterOf exprs = some filter) (document : Document) :
    filter.verdict document = Expr.verdictAll document exprs := by
  rcases exprs with _ | ⟨expr, _ | ⟨next, rest⟩⟩
  · cases joined
  · cases joined
    exact (Expr.verdictAll_singleton filter).symm
  · cases joined
    rw [Expr.verdict]

namespace Filter

def joined (clauses : List Clause) : Option Expr :=
  (Clause.addAll {} clauses).finish.filter

/-- The documents that a filter selects among some; where there is no filter, all of them. -/
def select (filter : Option Expr) (documents : List Document) :
    Except AccessError (List Document) :=
  match filter with
  | some expr => expr.select documents
  | none => .ok documents

/-- Whether a filter accepts a document, which is then selected as the only one. -/
def accepts (filter : Option Expr) (document : Document) : Bool :=
  (select filter [document]).toOption = some [document]

def Alike (filter other : Option Expr) : Prop :=
  ∀ documents, select filter documents = select other documents

theorem joined_eq (clauses : List Clause) :
    joined clauses = Draft.filterOf (clauses.map Clause.predicate) := by
  rw [joined, Clause.addAll_eq]
  rfl

section Clauses

variable {clauses : List Clause}

/-- Readable clauses select the documents on which all of them hold. -/
theorem select_joined (readable : ∀ clause ∈ clauses, clause.expr.Readable)
    (documents : List Document) :
    select (joined clauses) documents =
      .ok (documents.filter fun document => clauses.all (·.expr.holds document)) := by
  have each : ∀ expr ∈ clauses.map Clause.predicate, expr.Readable := by
    intro expr there
    obtain ⟨clause, listed, rfl⟩ := List.mem_map.1 there
    exact readable_predicate (readable clause listed)
  rw [joined_eq]
  cases made : Draft.filterOf (clauses.map Clause.predicate) with
  | none =>
    have empty : clauses = [] := by
      rcases clauses with _ | ⟨clause, _ | ⟨next, rest⟩⟩
      · rfl
      · cases made
      · cases made
    subst empty
    exact congrArg Except.ok (List.filter_eq_self.2 fun _ _ => rfl).symm
  | some filter =>
    -- The group holds where all predicates do, whichever of them stand in groups of their own.
    have same (document : Document) :
        filter.holds document = clauses.all (·.expr.holds document) := by
      rw [Bool.eq_iff_iff, Expr.holds_eq_true_iff, Draft.verdict_of_filterOf made,
        Expr.verdictAll_eq_true_iff, List.forall_mem_map, List.all_eq_true]
      simp only [Clause.verdict_predicate, Expr.holds_eq_true_iff]
    rw [select, (Draft.readable_of_filterOf made each).select_eq, funext same]

theorem accepts_joined (readable : ∀ clause ∈ clauses, clause.expr.Readable)
    (document : Document) :
    accepts (joined clauses) document = clauses.all (·.expr.holds document) := by
  rw [accepts, select_joined readable, List.filter_singleton]
  cases clauses.all (·.expr.holds document) with
  | true => exact decide_eq_true rfl
  | false => exact decide_eq_false nofun

theorem accepts_joined_singleton {clause : Clause} (readable : clause.expr.Readable)
    (document : Document) : accepts (joined [clause]) document = clause.expr.holds document := by
  rw [accepts_joined (List.forall_mem_singleton.2 readable)]
  exact Bool.and_true _

end Clauses

section Parameters

variable {primaryKey : String} {schema : Schema} {parameters others : Parameters}
  {clauses : List Clause}

theorem exists_compile_of_perm (perm : parameters.Perm others)
    (compiled : compile primaryKey schema parameters = .ok clauses) :
    ∃ moved, compile primaryKey schema others = .ok moved ∧ clauses.Perm moved := by
  induction perm generalizing clauses with
  | nil => exact ⟨clauses, compiled, .refl clauses⟩
  | cons parameter _ ih =>
    rw [compile_cons] at compiled
    obtain ⟨first, one, compiled⟩ := ok_of_bind compiled
    obtain ⟨rest, more, same⟩ := ok_of_bind compiled
    cases same
    obtain ⟨moved, more', perm⟩ := ih more
    refine ⟨first.toList ++ moved, ?_, perm.append_left first.toList⟩
    rw [compile_cons, one, more']
    rfl
  | swap second first rest =>
    rw [compile_cons, compile_cons] at compiled
    obtain ⟨b, two, compiled⟩ := ok_of_bind compiled
    obtain ⟨joined, compiled, same⟩ := ok_of_bind compiled
    obtain ⟨a, one, compiled⟩ := ok_of_bind compiled
    obtain ⟨others, more, same'⟩ := ok_of_bind compiled
    cases same'
    cases same
    refine ⟨a.toList ++ (b.toList ++ others), ?_, ?_⟩
    · rw [compile_cons, compile_cons, one, two, more]
      rfl
    · rw [← List.append_assoc, ← List.append_assoc]
      exact List.perm_append_comm.append_right others
  | trans _ _ ih ih' =>
    obtain ⟨between, compiled, perm⟩ := ih compiled
    obtain ⟨moved, compiled, perm'⟩ := ih' compiled
    exact ⟨moved, compiled, perm.trans perm'⟩

theorem sublist_of_compile {longer : List Clause} (sublist : parameters.Sublist others)
    (compiled : compile primaryKey schema parameters = .ok clauses)
    (compiled' : compile primaryKey schema others = .ok longer) : clauses.Sublist longer := by
  induction sublist generalizing clauses longer with
  | slnil =>
    rw [compiled] at compiled'
    cases compiled'
    exact .refl clauses
  | cons parameter _ ih =>
    rw [compile_cons] at compiled'
    obtain ⟨first, _, compiled'⟩ := ok_of_bind compiled'
    obtain ⟨rest, more, same⟩ := ok_of_bind compiled'
    cases same
    exact (ih compiled more).trans (List.sublist_append_right first.toList rest)
  | cons_cons parameter _ ih =>
    rw [compile_cons] at compiled compiled'
    obtain ⟨first, one, compiled⟩ := ok_of_bind compiled
    obtain ⟨rest, more, same⟩ := ok_of_bind compiled
    obtain ⟨first', one', compiled'⟩ := ok_of_bind compiled'
    obtain ⟨rest', more', same'⟩ := ok_of_bind compiled'
    cases same
    cases same'
    rw [one] at one'
    cases one'
    exact (List.Sublist.refl first.toList).append (ih more more')

/-- Two clauses that differ in the way they are to be joined at most. -/
def SamePredicate (clause other : Clause) : Prop :=
  { clause with combinator := other.combinator } = other

theorem expr_of_samePredicate {clause other : Clause} (same : SamePredicate clause other) :
    other.expr = clause.expr := by
  rw [← same]
  rfl

theorem map_expr_of_forall₂ {rejoined : List Clause}
    (same : List.Forall₂ SamePredicate clauses rejoined) :
    rejoined.map Clause.expr = clauses.map Clause.expr := by
  induction same with
  | nil => rfl
  | cons first _ ih => rw [List.map_cons, List.map_cons, expr_of_samePredicate first, ih]

/-- Clauses that differ in the way they are joined at most select the same documents. -/
theorem alike_of_forall₂ {rejoined : List Clause}
    (same : List.Forall₂ SamePredicate clauses rejoined)
    (readable : ∀ clause ∈ clauses, clause.expr.Readable) :
    Alike (joined rejoined) (joined clauses) := by
  have exprs := map_expr_of_forall₂ same
  have readable' : ∀ clause ∈ rejoined, clause.expr.Readable := by
    intro clause there
    have listed := List.mem_map_of_mem (f := Clause.expr) there
    rw [exprs] at listed
    obtain ⟨original, there, equal⟩ := List.mem_map.1 listed
    rw [← equal]
    exact readable original there
  have all_eq (document : Document) :
      rejoined.all (·.expr.holds document) = clauses.all (·.expr.holds document) := by
    have mapped := congrArg (List.all · (Expr.holds · document)) exprs
    rwa [List.all_map, List.all_map] at mapped
  intro documents
  simp only [select_joined readable, select_joined readable', all_eq]

/-- The filter that a request compiles to means the conjunction of its clauses. It selects, without
ever failing, the documents that each clause by itself accepts; the same documents in whatever order
the parameters come and however their clauses are joined; and no more documents with further
parameters. -/
theorem compile_conjunction (compiled : compile primaryKey schema parameters = .ok clauses) :
    (∀ document, accepts (joined clauses) document =
      clauses.all fun clause => accepts (joined [clause]) document) ∧
    (∀ documents, select (joined clauses) documents =
      .ok (documents.filter (accepts (joined clauses)))) ∧
    (∀ clause ∈ clauses, ∀ documents, select (joined [clause]) documents =
      .ok (documents.filter (accepts (joined [clause])))) ∧
    (∀ others, parameters.Perm others → ∃ moved, compile primaryKey schema others = .ok moved ∧
      Alike (joined moved) (joined clauses)) ∧
    (∀ rejoined, List.Forall₂ SamePredicate clauses rejoined →
      Alike (joined rejoined) (joined clauses)) ∧
    ∀ others longer, parameters.Sublist others → compile primaryKey schema others = .ok longer →
      ∀ document, accepts (joined longer) document = true →
        accepts (joined clauses) document = true := by
  have readable := readable_compile compiled
  refine ⟨fun document => ?_, fun documents => ?_, fun clause there documents => ?_,
    fun others perm => ?_, fun rejoined same => ?_,
    fun others longer sublist compiled' document accepted => ?_⟩
  · rw [accepts_joined readable]
    have each : ∀ clause ∈ clauses,
        accepts (joined [clause]) document = clause.expr.holds document :=
      fun clause there => accepts_joined_singleton (readable clause there) document
    rw [Bool.eq_iff_iff, List.all_eq_true, List.all_eq_true]
    exact forall₂_congr fun clause there => by rw [each clause there]
  · rw [select_joined readable, funext (accepts_joined readable)]
  · have alone : ∀ other ∈ [clause], other.expr.Readable :=
      List.forall_mem_singleton.2 (readable clause there)
    rw [select_joined alone, funext (accepts_joined alone)]
  · obtain ⟨moved, compiled', perm⟩ := exists_compile_of_perm perm compiled
    refine ⟨moved, compiled', fun documents => ?_⟩
    simp only [select_joined readable, select_joined (readable_compile compiled'), perm.all_eq]
  · exact alike_of_forall₂ same readable
  · rw [accepts_joined (readable_compile compiled'), List.all_eq_true] at accepted
    rw [accepts_joined readable, List.all_eq_true]
    have fewer := sublist_of_compile sublist compiled compiled'
    exact fun clause there => accepted clause (fewer.subset there)

end Parameters

def books : Schema :=
  ⟨"book", [.plain "title" (.primitive .string), .plain "pages" (.primitive .number)]⟩

def longBooks : Parameters :=
  [("filter[-title]", "*"), ("filter[+pages]", ">100")]

def longBookClauses : List Clause :=
  [⟨"title", .or, .exist, .bool true⟩, ⟨"pages", .and, .compare .gte, .int64 100⟩]

/-- A title in an alternative of its own is asked for like any other. -/
theorem compile_conjunction_books :
    compile idKey books longBooks = .ok longBookClauses ∧
      select (joined longBookClauses) [[("title", .string "The Sea"), ("pages", .int32 90)],
        [("title", .string "The Sea"), ("pages", .int32 120)], [("pages", .int32 120)]] =
          .ok [[("title", .string "The Sea"), ("pages", .int32 120)]] ∧
      ∃ moved, compile idKey books longBooks.reverse = .ok moved ∧
        Alike (joined moved) (joined longBookClauses) := by
  have compiled : compile idKey books longBooks = .ok longBookClauses :=
    ok_of_toOption (by decide +kernel)
  obtain ⟨_, selects, _, reordered, _⟩ := compile_conjunction compiled
  refine ⟨compiled, ?_, reordered _ (List.reverse_perm _).symm⟩
  rw [selects]
  exact ok_of_toOption (by decide +kernel)

end Filter

end DocumentQuery
