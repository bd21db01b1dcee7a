import DocumentQuery.Proofs.Filter.Inclusive
import DocumentQuery.Proofs.Number.Rounding

/-! Filters by integers. An integer is read exactly from its text and kept exactly in a document,
but the two are compared as double-precision numbers. So a filter compares them as they are after
rounding: it may take two integers for one, and never takes them the other way round. Integers that
are alone after rounding are told from all others.
-/

set_option autoImplicit false

namespace DocumentQuery

open Binary64 (rounded Alone)

theorem natAbs_toInt_le (n : Int64) : n.toInt.natAbs ≤ 1 <<< 63 := by
  have low := n.le_toInt
  have high := n.toInt_lt
  omega

/-- Stored integers are compared as they are after rounding. -/
theorem Value.compare?_int64 (m n : Int64) :
    (Value.int64 m).compare? (.int64 n) = some (compare (rounded m.toInt) (rounded n.toInt)) := by
  have fits (k : Int64) : k.toInt.natAbs < 1 <<< 64 := (natAbs_toInt_le k).trans_lt (by decide)
  exact Binary64.compare?_ofInt (fits m) (fits n)

namespace Filter

section Integers

variable {primaryKey name asked : String} {schema : Schema} {type : FieldType}

theorem compile_integer (named : fieldOf? name = some asked)
    (declared : schema.fieldType? (target primaryKey asked) = some type)
    (numeric : type.primitive? = some .number) (nonempty : target primaryKey asked ≠ "")
    (n : Int64) (mark : Mark) (compares : mark ≠ .present ∧ mark ≠ .absent) :
    compile primaryKey schema [(name, mark.token ++ Text.intText n.toInt)] =
      .ok [⟨target primaryKey asked, (combinator asked.toList).1, .compare mark.comparison,
        .int64 n⟩] := by
  have field : (combinator asked.toList).2 ≠ [] := by
    intro empty
    refine nonempty ?_
    rw [target, empty]
    rfl
  have plain : ∀ c ∈ (Text.intText n.toInt).toList, c ∉ special := not_special_intText n.toInt
  have single : ',' ∉ (Text.intText n.toInt).toList := fun there =>
    plain ',' there List.mem_cons_self
  have literal : literal (some type) (Text.intText n.toInt) = .ok (.int64 n) := by
    have unread : ¬ (some type).any (·.isIdentifier) = true := by
      simp [isIdentifier_of_primitive numeric]
    rw [Filter.literal, if_neg unread, Option.bind_some, numeric, coerce_number]
  rw [compile_field named field, declared,
    operand_literal compares (endsBefore_of_not_special plain) single (by simp [numeric]), literal]
  rfl

/-- The verdict on a stored integer, by its place to the one of a filter. -/
theorem accepts_integer {field : String} (dotless : '.' ∉ field.toList) (sign : Combinator)
    {m n : Int64} {document : Document} (stored : document.get? field = some (.int64 m)) :
    (accepts (joined [⟨field, sign, .compare .eq, .int64 n⟩]) document = true ↔
      rounded m.toInt = rounded n.toInt) ∧
    (accepts (joined [⟨field, sign, .compare .gt, .int64 n⟩]) document = true ↔
      rounded n.toInt < rounded m.toInt) ∧
    (accepts (joined [⟨field, sign, .compare .lt, .int64 n⟩]) document = true ↔
      rounded m.toInt < rounded n.toInt) := by
  have held : document.candidates field = [.int64 m] :=
    Document.candidates_of_get? (Path.ofText_single dotless) stored (by simp)
  have placed := Value.compare?_int64 m n
  have ordered (accepts : Ordering → Bool) : document.hasOrdered field (.int64 n) accepts =
      accepts (compare (rounded m.toInt) (rounded n.toInt)) := by
    simp [Document.hasOrdered, held, placed]
  have equals : document.hasEqual field (.int64 n) =
      (compare (rounded m.toInt) (rounded n.toInt) == .eq) := by
    have same : (Value.int64 m).same (.int64 n) =
        ((Value.int64 m).compare? (.int64 n) == some .eq) := Value.same_eq_compare? rfl (.int64 m)
    simp [Document.hasEqual, held, same, placed]
  have meant (comparison : Comparison) (compares : comparison.compares = true) :=
    accepts_compare compares field sign (.int64 n) document
  refine ⟨?_, ?_, ?_⟩
  · rw [(meant .eq rfl).trans equals, beq_iff_eq, compare_eq_iff_eq]
  · rw [(meant .gt rfl).trans (ordered (· == .gt)), beq_iff_eq, compare_gt_iff_gt]
  · rw [(meant .lt rfl).trans (ordered (· == .lt)), beq_iff_eq, compare_lt_iff_lt]

/-- Let a parameter name a field of numbers, and let it have the text of an integer, bare or after a
mark of order. Then it compiles, and it accepts a document that stores an integer there by the place
that the stored integer has to the other one, both rounded to a significand of 53 bits, a half to
the even one. So equal integers are taken as equal, and no integer is taken to be beyond one that
it is not beyond. All integers of 64 bits are told from the one in the text if it is alone after
rounding, and only then. -/
theorem accepts_by_rounding (named : fieldOf? name = some asked)
    (declared : schema.fieldType? (target primaryKey asked) = some type)
    (numeric : type.primitive? = some .number) (nonempty : target primaryKey asked ≠ "")
    (dotless : '.' ∉ (target primaryKey asked).toList) (n : Int64) :
    ∃ equal above below,
      compile primaryKey schema [(name, Text.intText n.toInt)] = .ok [equal] ∧
      compile primaryKey schema [(name, ">>" ++ Text.intText n.toInt)] = .ok [above] ∧
      compile primaryKey schema [(name, "<<" ++ Text.intText n.toInt)] = .ok [below] ∧
      (∀ m document, document.get? (target primaryKey asked) = some (.int64 m) →
        (accepts (joined [equal]) document = true ↔ rounded m.toInt = rounded n.toInt) ∧
        (accepts (joined [above]) document = true ↔ rounded n.toInt < rounded m.toInt) ∧
        (accepts (joined [below]) document = true ↔ rounded m.toInt < rounded n.toInt)) ∧
      (∀ m document, document.get? (target primaryKey asked) = some (.int64 m) →
        (m = n → accepts (joined [equal]) document = true) ∧
        (accepts (joined [above]) document = true → n < m) ∧
        (accepts (joined [below]) document = true → m < n)) ∧
      ((∀ m document, document.get? (target primaryKey asked) = some (.int64 m) →
        (accepts (joined [equal]) document = true ↔ m = n) ∧
        (accepts (joined [above]) document = true ↔ n < m) ∧
        (accepts (joined [below]) document = true ↔ m < n)) ↔ Alone n.toInt.natAbs) := by
  have clause := compile_integer named declared numeric nonempty n
  have verdicts {m : Int64} {document : Document}
      (stored : document.get? (target primaryKey asked) = some (.int64 m)) :=
    accepts_integer dotless (combinator asked.toList).1 (n := n) stored
  have bare : Mark.plain.token ++ Text.intText n.toInt = Text.intText n.toInt := String.empty_append
  refine ⟨_, _, _, bare ▸ clause .plain (by decide), clause .greater (by decide),
    clause .less (by decide), fun m document stored => verdicts stored, ?sound, ?exact⟩
  case sound =>
    intro m document stored
    obtain ⟨equal, above, below⟩ := verdicts stored
    refine ⟨?_, fun accepted => ?_, fun accepted => ?_⟩
    · rintro rfl
      exact equal.2 rfl
    · exact Int64.lt_iff_toInt_lt.2 (Binary64.lt_of_rounded_lt (above.1 accepted))
    · exact Int64.lt_iff_toInt_lt.2 (Binary64.lt_of_rounded_lt (below.1 accepted))
  case exact =>
    constructor
    · intro exact_
      by_contra crowded
      obtain ⟨m, other, small, same⟩ := Binary64.exists_rounded_eq crowded (natAbs_toInt_le n)
      have stored : Document.get? [(target primaryKey asked, .int64 (.ofInt m))]
          (target primaryKey asked) = some (.int64 (.ofInt m)) := by
        simp [Document.get?]
      have fits : (Int64.ofInt m).toInt = m := Int64.toInt_ofInt_of_le (by omega) (by omega)
      have taken := (verdicts stored).1.2 (by rw [fits, same])
      rw [(exact_ _ _ stored).1] at taken
      exact other (by rw [← fits, taken])
    · intro alone m document stored
      obtain ⟨equal, above, below⟩ := verdicts stored
      obtain ⟨up, down⟩ := Binary64.rounded_lt_iff (m := m.toInt) alone
      refine ⟨?_, ?_, ?_⟩
      · exact equal.trans ((Binary64.rounded_eq_iff alone).trans Int64.toInt_inj)
      · exact above.trans (up.trans Int64.lt_iff_toInt_lt.symm)
      · exact below.trans (down.trans Int64.lt_iff_toInt_lt.symm)

def sales : Schema :=
  ⟨"sale", [.plain "total" (.primitive .number)]⟩

/-- The first integer with a significand of more than 53 bits is taken for the one before it. -/
theorem confuses_totals :
    compile idKey sales [("filter[total]", Text.intText (9007199254740992 : Int64).toInt)] =
        .ok [⟨"total", .independent, .compare .eq, .int64 9007199254740992⟩] ∧
      compile idKey sales
          [("filter[total]", ">>" ++ Text.intText (9007199254740992 : Int64).toInt)] =
        .ok [⟨"total", .independent, .compare .gt, .int64 9007199254740992⟩] ∧
      accepts (joined [⟨"total", .independent, .compare .eq, .int64 9007199254740992⟩])
        [("total", .int64 9007199254740993)] = true ∧
      accepts (joined [⟨"total", .independent, .compare .gt, .int64 9007199254740992⟩])
        [("total", .int64 9007199254740993)] = false ∧
      (9007199254740993 : Int64) ≠ 9007199254740992 ∧
      (9007199254740992 : Int64) < 9007199254740993 :=
  ⟨ok_of_toOption (by decide +kernel), ok_of_toOption (by decide +kernel), by decide +kernel,
    by decide +kernel, by decide +kernel, by decide +kernel⟩

/-- The integer two places further is even but not divisible by four, and it is told from all
others, although its neighbours are not. -/
theorem accepts_by_rounding_totals :
    fieldOf? "filter[-total][0]" = some "-total" ∧
      sales.fieldType? (target idKey "-total") = some (.primitive .number) ∧
      ∃ equal above below,
        compile idKey sales [("filter[-total][0]", "9007199254740994")] = .ok [equal] ∧
        compile idKey sales [("filter[-total][0]", ">>9007199254740994")] = .ok [above] ∧
        compile idKey sales [("filter[-total][0]", "<<9007199254740994")] = .ok [below] ∧
        accepts (joined [equal]) [("total", .int64 9007199254740993)] = false ∧
        accepts (joined [above]) [("total", .int64 9007199254740995)] = true ∧
        accepts (joined [below]) [("total", .int64 9007199254740993)] = true := by
  have named : fieldOf? "filter[-total][0]" = some "-total" := by decide +kernel
  have declared : sales.fieldType? (target idKey "-total") = some (.primitive .number) := by rfl
  have alone : Alone (9007199254740994 : Int64).toInt.natAbs := .inr ⟨by decide, by decide⟩
  have text : Text.intText (9007199254740994 : Int64).toInt = "9007199254740994" := by
    decide +kernel
  obtain ⟨equal, above, below, equals, exceeds, undercuts, -, -, exact_⟩ :=
    accepts_by_rounding named declared rfl (by decide) (by decide) 9007199254740994
  rw [text] at equals exceeds undercuts
  obtain ⟨apart, -, lesser⟩ := exact_.2 alone 9007199254740993
    [("total", .int64 9007199254740993)] (by rfl)
  obtain ⟨-, greater, -⟩ := exact_.2 alone 9007199254740995
    [("total", .int64 9007199254740995)] (by rfl)
  refine ⟨named, declared, equal, above, below, equals, exceeds, undercuts, ?_, ?_, ?_⟩
  · exact Bool.eq_false_iff.2 fun taken => absurd (apart.1 taken) (by decide)
  · exact greater.2 (by decide)
  · exact lesser.2 (by decide)

end Integers

end Filter

end DocumentQuery
