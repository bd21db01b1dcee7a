import DocumentQuery.Expr.Evaluation

/-! Verdicts. The evaluator carries the patterns that it has read from one document to the
next. As long as each remembered pattern is the one that its text writes, this changes no
verdict: evaluation agrees with a reading that has no memory, in its errors as well.
-/

set_option autoImplicit false

namespace DocumentQuery

def Pattern.ofText (text : String) : Except AccessError Node :=
  match read? text with
  | some node => .ok node
  | none => .error (.invalidPattern text)

/-- Whatever is remembered for a text is the pattern that the text writes. -/
def PatternCache.Sound (cache : PatternCache) : Prop :=
  ∀ text node, cache.lookup text = some node → Pattern.read? text = some node

/-- A result found with the help of a cache is the result without one, and the cache that is left
is sound. -/
inductive Agrees {α : Type} : Except AccessError (α × PatternCache) → Except AccessError α → Prop
  | ok {a : α} {next : PatternCache} : next.Sound → Agrees (.ok (a, next)) (.ok a)
  | error (error : AccessError) : Agrees (.error error) (.error error)

namespace PatternCache

theorem sound_nil : Sound [] := nofun

theorem sound_cons {cache : PatternCache} (sound : cache.Sound) {text : String}
    {node : Pattern.Node} (read : Pattern.read? text = some node) :
    Sound ((text, node) :: cache) := by
  intro other found remembered
  rw [List.lookup_cons] at remembered
  split at remembered
  · rename_i same
    cases remembered
    rw [eq_of_beq same, read]
  · exact sound other found remembered

theorem read_agrees {cache : PatternCache} (sound : cache.Sound) (text : String) :
    Agrees (cache.read text) (Pattern.ofText text) := by
  rw [Pattern.ofText]
  cases remembered : cache.lookup text with
  | some node =>
    rw [read_of_lookup remembered, sound text node remembered]
    exact .ok sound
  | none =>
    cases written : Pattern.read? text with
    | some node =>
      rw [read_of_fresh remembered written]
      exact .ok (sound_cons sound written)
    | none =>
      rw [read_of_unreadable remembered written]
      exact .error _

end PatternCache

namespace Document

def matching (document : Document) (field : String) : Value → Except AccessError Bool
  | .string text => do return document.hasMatch field (← Pattern.ofText text)
  | _ => .error (.patternNotText field)

def compares (document : Document) (field : String) (comparison : Comparison) (value : Value) :
    Except AccessError Bool :=
  match comparison with
  | .eq => .ok (document.hasEqual field value)
  | .ne => .ok (! document.hasEqual field value)
  | .gt => .ok (document.hasOrdered field value (· == .gt))
  | .gte => .ok (document.hasOrdered field value (· != .lt))
  | .lt => .ok (document.hasOrdered field value (· == .lt))
  | .lte => .ok (document.hasOrdered field value (· != .gt))
  | .matching => document.matching field value
  | .notMatching => do return ! (← document.matching field value)
  | .among => .ok (document.hasMember field value)

end Document

namespace Expr

mutual

def verdict (document : Document) : Expr → Except AccessError Bool
  | .all exprs => verdictAll document exprs
  | .any exprs => verdictAny document exprs
  | .exist field present => .ok ((document.candidates field).isEmpty != present)
  | .compare field comparison value => document.compares field comparison value

def verdictAll (document : Document) : List Expr → Except AccessError Bool
  | [] => .ok true
  | expr :: rest => do if ← verdict document expr then verdictAll document rest else return false

def verdictAny (document : Document) : List Expr → Except AccessError Bool
  | [] => .ok false
  | expr :: rest => do if ← verdict document expr then return true else verdictAny document rest

end

section Agreement

variable (document : Document)

theorem matchPattern_agrees {cache : PatternCache} (sound : cache.Sound) (field : String)
    (value : Value) :
    Agrees (matchPattern document field cache value) (document.matching field value) := by
  cases value with
  | string text =>
    have found := PatternCache.read_agrees sound text
    simp only [matchPattern, Document.matching]
    generalize cache.read text = cached, Pattern.ofText text = plain at found
    cases found with
    | ok sound => exact .ok sound
    | error error => exact .error error
  | _ => exact .error _

theorem evaluateComparison_agrees {cache : PatternCache} (sound : cache.Sound) (field : String)
    (comparison : Comparison) (value : Value) :
    Agrees (evaluateComparison document cache field comparison value)
      (document.compares field comparison value) := by
  cases comparison with
  | matching => exact matchPattern_agrees document sound field value
  | notMatching =>
    have found := matchPattern_agrees document sound field value
    simp only [evaluateComparison, Document.compares]
    generalize matchPattern document field cache value = cached,
      document.matching field value = plain at found
    cases found with
    | ok sound => exact .ok sound
    | error error => exact .error error
  | _ => exact .ok sound

mutual

/-- From a sound cache, evaluation comes to the verdict. -/
theorem evaluate_agrees {cache : PatternCache} (sound : cache.Sound) (expr : Expr) :
    Agrees (expr.evaluate document cache) (expr.verdict document) := by
  match expr with
  | .all exprs =>
    rw [evaluate, verdict]
    exact evaluateAll_agrees sound exprs
  | .any exprs =>
    rw [evaluate, verdict]
    exact evaluateAny_agrees sound exprs
  | .exist field present =>
    rw [evaluate, verdict]
    exact .ok sound
  | .compare field comparison value =>
    rw [evaluate, verdict]
    exact evaluateComparison_agrees document sound field comparison value

theorem evaluateAll_agrees {cache : PatternCache} (sound : cache.Sound) (exprs : List Expr) :
    Agrees (evaluateAll document cache exprs) (verdictAll document exprs) := by
  match exprs with
  | [] => exact .ok sound
  | expr :: rest =>
    have first := evaluate_agrees sound expr
    rw [evaluateAll, verdictAll]
    generalize expr.evaluate document cache = cached, expr.verdict document = plain at first
    cases first with
    | error error => exact .error error
    | @ok holds next sound =>
      -- The rest goes on with the patterns that the first expression has read.
      cases holds with
      | true => exact evaluateAll_agrees sound rest
      | false => exact .ok sound

theorem evaluateAny_agrees {cache : PatternCache} (sound : cache.Sound) (exprs : List Expr) :
    Agrees (evaluateAny document cache exprs) (verdictAny document exprs) := by
  match exprs with
  | [] => exact .ok sound
  | expr :: rest =>
    have first := evaluate_agrees sound expr
    rw [evaluateAny, verdictAny]
    generalize expr.evaluate document cache = cached, expr.verdict document = plain at first
    cases first with
    | error error => exact .error error
    | @ok holds next sound =>
      cases holds with
      | true => exact .ok sound
      | false => exact evaluateAny_agrees sound rest

end

end Agreement

section Selection

variable {expr : Expr} {holds : Document → Bool} {documents : List Document}

theorem selectFrom_of_verdict {cache : PatternCache} (sound : cache.Sound)
    (verdicts : ∀ document ∈ documents, expr.verdict document = .ok (holds document)) :
    expr.selectFrom cache documents = .ok (documents.filter holds) := by
  induction documents generalizing cache with
  | nil => rfl
  | cons document rest ih =>
    have first := evaluate_agrees document sound expr
    rw [verdicts document List.mem_cons_self] at first
    rw [selectFrom]
    generalize expr.evaluate document cache = cached at first
    cases first with
    | ok sound =>
      have later := ih sound fun other there => verdicts other (List.mem_cons_of_mem _ there)
      simp only [bind, Except.bind, later, pure, Except.pure, List.filter_cons]

theorem select_of_verdict
    (verdicts : ∀ document ∈ documents, expr.verdict document = .ok (holds document)) :
    expr.select documents = .ok (documents.filter holds) :=
  selectFrom_of_verdict PatternCache.sound_nil verdicts

end Selection

section Groups

variable {document : Document}

theorem verdictAll_eq_true_iff {exprs : List Expr} :
    verdictAll document exprs = .ok true ↔ ∀ expr ∈ exprs, expr.verdict document = .ok true := by
  induction exprs with
  | nil => simp [verdictAll]
  | cons expr rest ih =>
    rw [List.forall_mem_cons, ← ih, verdictAll]
    rcases expr.verdict document with error | _ | _ <;>
      simp [bind, Except.bind, pure, Except.pure]

theorem verdictAll_singleton (expr : Expr) :
    verdictAll document [expr] = expr.verdict document := by
  simp only [verdictAll]
  rcases expr.verdict document with error | _ | _ <;> rfl

theorem verdictAny_singleton (expr : Expr) :
    verdictAny document [expr] = expr.verdict document := by
  simp only [verdictAny]
  rcases expr.verdict document with error | _ | _ <;> rfl

end Groups

end Expr

end DocumentQuery
