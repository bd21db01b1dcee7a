import DocumentQuery.Proofs.Filter.Typed
import DocumentQuery.Proofs.Sort.Sorted

/-! Inclusive comparisons. Equality and order are two relations on values. They fit together where
the second value is of a kind that has an order: whatever the first one is, it equals the second
exactly when the order says so. So a filter for values from a bound on accepts what the filters for
values beyond the bound and for the bound itself accept, unless the latter reads a pattern.
-/

set_option autoImplicit false

namespace DocumentQuery

theorem beq_eq_compare {α : Type} [DecidableEq α] [Ord α] [Std.LawfulEqOrd α] (a b : α) :
    (a == b) = (some (compare a b) == some .eq) := by
  rw [Bool.eq_iff_iff, beq_iff_eq, beq_iff_eq, Option.some.injEq, Std.compare_eq_iff_eq]

/-- A value equals one of an ordered kind exactly when the order says so; values of other kinds have
no order with it and do not equal it either. -/
theorem Value.same_eq_compare? {value : Value} (stands : value.standing?.isSome = true)
    (candidate : Value) : candidate.same value = (candidate.compare? value == some .eq) := by
  cases value with
  | bool b =>
    cases candidate with
    | bool a => exact beq_eq_compare a b
    | _ => rfl
  | string b =>
    cases candidate with
    | string a => exact beq_eq_compare a b
    | _ => rfl
  | objectId b =>
    cases candidate with
    | objectId a => exact beq_eq_compare a b
    | _ => rfl
  | date b =>
    cases candidate with
    | date a =>
      have counted : (a == b) = (a.millis == b.millis) := by
        rw [Bool.eq_iff_iff, beq_iff_eq, beq_iff_eq, ← Timestamp.mk.injEq]
      exact counted.trans (beq_eq_compare a.millis b.millis)
    | _ => rfl
  | int32 | int64 | double => cases candidate <;> rfl
  | null | undefined | minKey | maxKey | sealed | array | document => cases stands

namespace Document

theorem any_or {α : Type} (p q : α → Bool) (items : List α) :
    (items.any fun item => p item || q item) = (items.any p || items.any q) := by
  rw [Bool.eq_iff_iff]
  simp only [List.any_eq_true, Bool.or_eq_true, and_or_left, exists_or]

theorem hasOrdered_or_hasEqual {value : Value} (stands : value.standing?.isSome = true)
    {strict inclusive : Ordering → Bool}
    (union : ∀ order, inclusive order = (strict order || order == .eq))
    (document : Document) (field : String) :
    document.hasOrdered field value inclusive =
      (document.hasOrdered field value strict || document.hasEqual field value) := by
  rw [hasOrdered, hasOrdered, hasEqual, ← any_or]
  congr 1
  funext candidate
  rw [Value.same_eq_compare? stands]
  cases candidate.compare? value with
  | none => rfl
  | some order => exact union order

end Document

namespace Expr

variable {value : Value}

theorem holds_gte (stands : value.standing?.isSome = true) (field : String) (document : Document) :
    (compare field .gte value).holds document =
      ((compare field .gt value).holds document || (compare field .eq value).holds document) := by
  simp only [holds, verdict, Document.compares]
  exact Document.hasOrdered_or_hasEqual stands (by rintro ⟨⟩ <;> rfl) document field

theorem holds_lte (stands : value.standing?.isSome = true) (field : String) (document : Document) :
    (compare field .lte value).holds document =
      ((compare field .lt value).holds document || (compare field .eq value).holds document) := by
  simp only [holds, verdict, Document.compares]
  exact Document.hasOrdered_or_hasEqual stands (by rintro ⟨⟩ <;> rfl) document field

end Expr

namespace Filter

theorem Suits.isSome_standing? {type : Option FieldType} {value : Value}
    (suits : Suits type value) : value.standing?.isSome = true := by
  induction suits with
  | layer _ ih => exact ih
  | _ => rfl

/-- What a text without a mark is read as, on a field that asks for no pattern. -/
def literal (type : Option FieldType) (text : String) : Except AccessError Value :=
  if type.any (·.isIdentifier) then reference text else coerce text (type.bind (·.primitive?))

section Operands

variable {type : Option FieldType} {text : String}

theorem suits_literal {value : Value} (read : literal type text = .ok value) :
    Suits type value := by
  rw [literal] at read
  split at read
  · rename_i identified
    obtain ⟨id, rfl, _⟩ := objectId_of_reference read
    cases type with
    | none => cases identified
    | some type => exact suits_identifier identified id
  · rename_i other
    exact suits_coerce (Bool.eq_false_iff.2 other) read

theorem operand_literal {asked : Mark} (compares : asked ≠ .present ∧ asked ≠ .absent)
    (ends : asked.EndsBefore text) (single : ',' ∉ text.toList)
    (plain : type.bind (·.primitive?) ≠ some .string) :
    operand (asked.token ++ text) type =
      (literal type text).map fun value => (.compare asked.comparison, value) := by
  have marked := mark_token ends
  rw [operand, literal]
  split
  · have unlisted : (asked.token ++ text).toList.contains ',' = false := by
      cases asked <;> simp [Mark.token, single]
    rw [identifierOperand, marked, unlisted]
    cases asked with
    | present => exact absurd rfl compares.1
    | absent => exact absurd rfl compares.2
    | _ =>
      simp only [String.ofList_toList]
      cases reference text <;> rfl
  · simp only [typedOperand, marked, String.ofList_toList, if_neg plain]
    cases asked with
    | present => exact absurd rfl compares.1
    | absent => exact absurd rfl compares.2
    | _ => cases coerce text (type.bind (·.primitive?)) <;> rfl

end Operands

section Parameters

variable {primaryKey name : String} {schema : Schema} {text : String} {equal : List Clause}

theorem accepts_compare {comparison : Comparison} (compares : comparison.compares = true)
    (field : String) (combinator : Combinator) (value : Value)
    (document : Document) :
    accepts (joined [⟨field, combinator, .compare comparison, value⟩]) document =
      (Expr.compare field comparison value).holds document := by
  have meant : Clause.expr ⟨field, combinator, .compare comparison, value⟩ =
      .compare field comparison value := by
    cases comparison with
    | among => cases compares
    | _ => rfl
  have readable : (Expr.compare field comparison value).Readable := by
    apply Expr.Readable.compare
    cases comparison with
    | matching | notMatching => cases compares
    | _ => rfl
  rw [accepts_joined_singleton (by rw [meant]; exact readable), meant]

theorem compile_field {field : String} (named : fieldOf? name = some field)
    (nonempty : (combinator field.toList).2 ≠ []) (text : String) :
    compile primaryKey schema [(name, text)] =
      (operand text (schema.fieldType? (target primaryKey field))).map fun asked =>
        [⟨target primaryKey field, (combinator field.toList).1, asked.1, asked.2⟩] := by
  rw [compile_cons, compileOne, named]
  rcases divided : combinator field.toList with ⟨sign, _ | ⟨c, rest⟩⟩
  · exact absurd (congrArg Prod.snd divided) nonempty
  · simp only [compileClause, target, divided]
    cases operand text (schema.fieldType? (storedName primaryKey (String.ofList (c :: rest)))) <;>
      rfl

/-- The parameters of one name compile to nothing whatever their values, or each to one clause on
the field that the name targets. -/
theorem compile_named (primaryKey name : String) (schema : Schema) :
    (∀ text, compile primaryKey schema [(name, text)] = .ok []) ∨
      ∃ field ∈ fieldOf? name, ∃ combinator, ∀ text,
        compile primaryKey schema [(name, text)] =
          (operand text (schema.fieldType? (target primaryKey field))).map
            fun asked => [⟨target primaryKey field, combinator, asked.1, asked.2⟩] := by
  cases named : fieldOf? name with
  | none =>
    refine .inl fun text => ?_
    rw [compile_cons, compileOne, named]
    rfl
  | some field =>
    by_cases empty : (combinator field.toList).2 = []
    · refine .inl fun text => ?_
      rw [compile_cons, compileOne, named]
      rcases divided : combinator field.toList with ⟨sign, rest⟩
      rw [divided] at empty
      cases empty
      simp only [compileClause, divided]
      rfl
    · exact .inr ⟨field, rfl, _, compile_field named empty⟩

theorem compile_literal
    (plain : ∀ field ∈ fieldOf? name,
      (schema.fieldType? (target primaryKey field)).bind (·.primitive?) ≠ some .string)
    (ends : Mark.plain.EndsBefore text) (single : ',' ∉ text.toList)
    (compiled : compile primaryKey schema [(name, text)] = .ok equal) :
    (equal = [] ∧ ∀ text, compile primaryKey schema [(name, text)] = .ok []) ∨
      ∃ field combinator value, value.standing?.isSome = true ∧
        equal = [⟨field, combinator, .compare .eq, value⟩] ∧
        ∀ asked : Mark, asked ≠ .present ∧ asked ≠ .absent →
          compile primaryKey schema [(name, asked.token ++ text)] =
            .ok [⟨field, combinator, .compare asked.comparison, value⟩] := by
  rcases compile_named primaryKey name schema with nothing | ⟨field, named, combinator, clause⟩
  · rw [nothing] at compiled
    cases compiled
    exact .inl ⟨rfl, nothing⟩
  · have read (asked : Mark) (compares : asked ≠ .present ∧ asked ≠ .absent) :
        compile primaryKey schema [(name, asked.token ++ text)] =
          (literal (schema.fieldType? (target primaryKey field)) text).map fun value =>
            [⟨target primaryKey field, combinator, .compare asked.comparison, value⟩] := by
      rw [clause, operand_literal compares ends.of_plain single (plain field named)]
      cases literal (schema.fieldType? (target primaryKey field)) text <;> rfl
    have bare : Mark.plain.token ++ text = text := String.empty_append
    rw [← bare, read .plain (by decide)] at compiled
    cases found : literal (schema.fieldType? (target primaryKey field)) text with
    | error error =>
      rw [found] at compiled
      cases compiled
    | ok value =>
      rw [found] at compiled
      cases compiled
      refine .inr ⟨_, combinator, value, (suits_literal found).isSome_standing?, rfl, ?_⟩
      intro asked compares
      rw [read asked compares, found]
      rfl

/-- From a bound on means beyond the bound or at it. On a field that asks for no pattern, let a
value text carry no mark, list nothing and compile. Then it compiles after every mark of order, and
a document is accepted by an inclusive comparison exactly when it is accepted by the strict one or
by equality. -/
theorem accepts_inclusive
    (plain : ∀ field ∈ fieldOf? name,
      (schema.fieldType? (target primaryKey field)).bind (·.primitive?) ≠ some .string)
    (unmarked : ∀ c ∈ text.toList.head?, c ∉ ['<', '>', '*', '!']) (single : ',' ∉ text.toList)
    (compiled : compile primaryKey schema [(name, text)] = .ok equal) :
    ∃ above atLeast below atMost,
      compile primaryKey schema [(name, ">>" ++ text)] = .ok above ∧
      compile primaryKey schema [(name, ">" ++ text)] = .ok atLeast ∧
      compile primaryKey schema [(name, "<<" ++ text)] = .ok below ∧
      compile primaryKey schema [(name, "<" ++ text)] = .ok atMost ∧
      ∀ document,
        accepts (joined atLeast) document =
          (accepts (joined above) document || accepts (joined equal) document) ∧
        accepts (joined atMost) document =
          (accepts (joined below) document || accepts (joined equal) document) := by
  rcases compile_literal plain unmarked single compiled with
    ⟨rfl, nothing⟩ | ⟨field, combinator, value, stands, rfl, clause⟩
  · exact ⟨[], [], [], [], nothing _, nothing _, nothing _, nothing _,
      fun document => ⟨(Bool.or_self _).symm, (Bool.or_self _).symm⟩⟩
  · refine ⟨_, _, _, _, clause .greater (by decide), clause .greaterOrEqual (by decide),
      clause .less (by decide), clause .lessOrEqual (by decide), fun document => ?_⟩
    have bound : Comparison.eq.compares = true := rfl
    simp only [accepts_compare bound, accepts_compare (compares_comparison _)]
    exact ⟨Expr.holds_gte stands field document, Expr.holds_lte stands field document⟩

/-- Scores of two and a half at least, in some round. -/
theorem accepts_inclusive_scores :
    (∀ field ∈ fieldOf? "filter[-rounds]",
      (scores.fieldType? (target idKey field)).bind (·.primitive?) ≠ some .string) ∧
    compile idKey scores [("filter[-rounds]", "2.5")] =
      .ok [⟨"rounds", .or, .compare .eq, .double ⟨0x4004000000000000⟩⟩] ∧
    ∃ above atLeast below atMost,
      compile idKey scores [("filter[-rounds]", ">>2.5")] = .ok above ∧
      compile idKey scores [("filter[-rounds]", ">2.5")] = .ok atLeast ∧
      compile idKey scores [("filter[-rounds]", "<<2.5")] = .ok below ∧
      compile idKey scores [("filter[-rounds]", "<2.5")] = .ok atMost ∧
      ∀ document,
        accepts (joined atLeast) document = (accepts (joined above) document ||
          accepts (joined [⟨"rounds", .or, .compare .eq, .double ⟨0x4004000000000000⟩⟩]) document) ∧
        accepts (joined atMost) document = (accepts (joined below) document ||
          accepts (joined [⟨"rounds", .or, .compare .eq, .double ⟨0x4004000000000000⟩⟩])
            document) := by
  have plain : ∀ field ∈ fieldOf? "filter[-rounds]",
      (scores.fieldType? (target idKey field)).bind (·.primitive?) ≠ some .string := by
    have named : fieldOf? "filter[-rounds]" = some "-rounds" := by decide +kernel
    rw [named]
    rintro field ⟨⟩
    decide +kernel
  have compiled : compile idKey scores [("filter[-rounds]", "2.5")] =
      .ok [⟨"rounds", .or, .compare .eq, .double ⟨0x4004000000000000⟩⟩] :=
    ok_of_toOption (by decide +kernel)
  refine ⟨plain, compiled, accepts_inclusive plain ?_ (by decide) compiled⟩
  intro c first
  cases first
  decide

end Parameters

end Filter

end DocumentQuery
