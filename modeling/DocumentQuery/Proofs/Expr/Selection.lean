import DocumentQuery.Proofs.Expr.Reading

/-! Selecting documents is reading an expression on one after the other. The selection goes on for
as long as the reading does not stumble, and what has been remembered of patterns on the way, or
before, makes no difference to it.
-/

set_option autoImplicit false

namespace DocumentQuery

namespace Expr

section Selection

variable {expr : Expr} {documents : List Document}

/-- The first document that the reading stumbles on ends a selection, whatever is remembered. -/
theorem selectFrom_of_stumbles {cache : PatternCache} (sound : cache.Sound)
    {earlier later : List Document} {document : Document} {error : AccessError}
    (read : ∀ other ∈ earlier, ∃ holds, Reads other expr holds)
    (stumbles : Stumbles document expr error) :
    expr.selectFrom cache (earlier ++ document :: later) = .error error := by
  induction earlier generalizing cache with
  | nil =>
    have first := evaluate_agrees document sound expr
    rw [stumbles_iff.1 stumbles] at first
    rw [List.nil_append, selectFrom]
    generalize expr.evaluate document cache = cached at first
    cases first with
    | error => rfl
  | cons other earlier ih =>
    obtain ⟨⟨holds, reads⟩, read⟩ := List.forall_mem_cons.1 read
    have first := evaluate_agrees other sound expr
    rw [reads_iff.1 reads] at first
    rw [List.cons_append, selectFrom]
    generalize expr.evaluate other cache = cached at first
    cases first with
    | ok sound =>
      simp only [bind, Except.bind, ih sound read]

theorem selectFrom_of_reads {cache : PatternCache} (sound : cache.Sound) {holds : Document → Bool}
    (read : ∀ document ∈ documents, Reads document expr (holds document)) :
    expr.selectFrom cache documents = .ok (documents.filter holds) :=
  selectFrom_of_verdict sound fun document there => reads_iff.1 (read document there)

theorem reads_holds {document : Document} (read : ∃ holds, Reads document expr holds) :
    Reads document expr (expr.holds document) := by
  obtain ⟨found, reads⟩ := read
  rw [holds, reads_iff.1 reads]
  exact reads

theorem reads_each_or_stumbles (expr : Expr) (documents : List Document) :
    (∀ document ∈ documents, Reads document expr (expr.holds document)) ∨
      ∃ earlier document later error, documents = earlier ++ document :: later ∧
        (∀ other ∈ earlier, ∃ holds, Reads other expr holds) ∧ Stumbles document expr error := by
  rcases forall_mem_or_first (fun document => ∃ holds, Reads document expr holds) documents with
    all | ⟨earlier, document, later, rfl, read, unread⟩
  · exact .inl fun document there => reads_holds (all document there)
  · obtain ⟨error, stumbles⟩ := (reads_or_stumbles document expr).resolve_left unread
    exact .inr ⟨earlier, document, later, error, rfl, read, stumbles⟩

/-- What is remembered makes no difference to a selection. -/
theorem selectFrom_eq_select {cache : PatternCache} (sound : cache.Sound) :
    expr.selectFrom cache documents = expr.select documents := by
  rcases reads_each_or_stumbles expr documents with
    read | ⟨earlier, document, later, error, rfl, read, stumbles⟩
  · rw [select, selectFrom_of_reads sound read, selectFrom_of_reads PatternCache.sound_nil read]
  · rw [select, selectFrom_of_stumbles sound read stumbles,
      selectFrom_of_stumbles PatternCache.sound_nil read stumbles]

theorem select_eq_ok_iff {selected : List Document} : expr.select documents = .ok selected ↔
    ∃ holds : Document → Bool, (∀ document ∈ documents, Reads document expr (holds document)) ∧
      selected = documents.filter holds := by
  constructor
  · intro answered
    rcases reads_each_or_stumbles expr documents with
      read | ⟨earlier, document, later, error, rfl, read, stumbles⟩
    · rw [select, selectFrom_of_reads PatternCache.sound_nil read] at answered
      exact ⟨expr.holds, read, (Except.ok.inj answered).symm⟩
    · rw [select, selectFrom_of_stumbles PatternCache.sound_nil read stumbles] at answered
      cases answered
  · rintro ⟨holds, read, rfl⟩
    exact selectFrom_of_reads PatternCache.sound_nil read

-- The first alternative holds, so that the pattern, which is no text, is not read.
example : (Expr.any [.exist "name" false, .compare "name" .matching .null]).select [[]] =
    .ok [[]] := by
  rfl

theorem select_eq_error_iff {error : AccessError} : expr.select documents = .error error ↔
    ∃ earlier document later, documents = earlier ++ document :: later ∧
      (∀ other ∈ earlier, ∃ holds, Reads other expr holds) ∧ Stumbles document expr error := by
  constructor
  · intro refused
    rcases reads_each_or_stumbles expr documents with
      read | ⟨earlier, document, later, first, rfl, read, stumbles⟩
    · rw [select, selectFrom_of_reads PatternCache.sound_nil read] at refused
      cases refused
    · rw [select, selectFrom_of_stumbles PatternCache.sound_nil read stumbles] at refused
      cases refused
      exact ⟨earlier, document, later, rfl, read, stumbles⟩
  · rintro ⟨earlier, document, later, rfl, read, stumbles⟩
    exact selectFrom_of_stumbles PatternCache.sound_nil read stumbles

theorem exists_select_eq_error_iff : (∃ error, expr.select documents = .error error) ↔
    ∃ document ∈ documents, ∃ error, Stumbles document expr error := by
  constructor
  · rintro ⟨error, refused⟩
    obtain ⟨earlier, document, later, rfl, _, stumbles⟩ := select_eq_error_iff.1 refused
    exact ⟨document, List.mem_append_right _ List.mem_cons_self, error, stumbles⟩
  · rintro ⟨document, there, error, stumbles⟩
    rcases reads_each_or_stumbles expr documents with
      read | ⟨earlier, first, later, first', rfl, read, stumbles'⟩
    · have found := reads_iff.1 (read document there)
      rw [stumbles_iff.1 stumbles] at found
      cases found
    · exact ⟨first', select_eq_error_iff.2 ⟨earlier, first, later, rfl, read, stumbles'⟩⟩

theorem kind_of_select {error : AccessError} (refused : expr.select documents = .error error) :
    error.kind = .invalidArgument := by
  obtain ⟨_, _, _, _, _, stumbles⟩ := select_eq_error_iff.1 refused
  exact stumbles.kind_eq

end Selection

end Expr

/-- The caches that evaluations leave one after the other, of whatever expressions on whatever
documents. -/
inductive PatternCache.Left : PatternCache → Prop
  | start : Left []
  | next {cache after : PatternCache} {expr : Expr} {document : Document} {holds : Bool} :
      Left cache → expr.evaluate document cache = .ok (holds, after) → Left after

theorem PatternCache.Left.sound {cache : PatternCache} (left : cache.Left) : cache.Sound := by
  induction left with
  | start => exact sound_nil
  | @next cache after expr document holds _ evaluated ih =>
    have agrees := Expr.evaluate_agrees document ih expr
    rw [evaluated] at agrees
    generalize expr.verdict document = plain at agrees
    cases agrees with
    | ok sound => exact sound

/-- Selecting is reading. The documents on which an expression reads true are selected, in their
order; it fails exactly when the reading of a document stumbles, with what the first such document
is stumbled over, which is always an invalid argument; and nothing that evaluations have remembered
before changes the answer. -/
theorem Expr.select_reads (expr : Expr) (documents : List Document) :
    (∀ selected, expr.select documents = .ok selected ↔
      ∃ holds : Document → Bool, (∀ document ∈ documents, Reads document expr (holds document)) ∧
        selected = documents.filter holds) ∧
    (∀ error, expr.select documents = .error error ↔
      ∃ earlier document later, documents = earlier ++ document :: later ∧
        (∀ other ∈ earlier, ∃ holds, Reads other expr holds) ∧ Stumbles document expr error) ∧
    ((∃ error, expr.select documents = .error error ∧ error.kind = .invalidArgument) ↔
      ∃ document ∈ documents, ∃ error, Stumbles document expr error) ∧
    (∀ detail, expr.select documents ≠ .error (.backend detail)) ∧
    ∀ cache : PatternCache, cache.Left →
      expr.selectFrom cache documents = expr.select documents := by
  refine ⟨fun selected => select_eq_ok_iff, fun error => select_eq_error_iff, ?_, ?_, ?_⟩
  · rw [← exists_select_eq_error_iff]
    constructor
    · rintro ⟨error, refused, _⟩
      exact ⟨error, refused⟩
    · rintro ⟨error, refused⟩
      exact ⟨error, refused, kind_of_select refused⟩
  · intro detail refused
    cases kind_of_select refused
  · exact fun cache left => selectFrom_eq_select left.sound

end DocumentQuery
