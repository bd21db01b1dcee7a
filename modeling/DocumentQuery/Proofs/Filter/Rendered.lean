import DocumentQuery.Proofs.Filter.Identifier
import DocumentQuery.Proofs.Parameters.Brackets
import DocumentQuery.Proofs.Schema.Structure

/-! How filters are written. A clause is written as one parameter: the sign of its combinator and
its field between brackets, then the mark of its operator and its operand. The marks overlap, and
so do the values of lists and of single identifiers, so an operand has to leave the mark before it
as it is. Then the clause is what the parameter compiles to.
-/

set_option autoImplicit false

namespace DocumentQuery

namespace Comparison

def orders : Comparison → Bool
  | .gt | .gte | .lt | .lte => true
  | _ => false

def compares (comparison : Comparison) : Bool :=
  comparison = .eq || comparison = .ne || comparison.orders

end Comparison

namespace Filter

def Mark.token : Mark → String
  | .less => "<<"
  | .lessOrEqual => "<"
  | .greater => ">>"
  | .greaterOrEqual => ">"
  | .absent => "*!"
  | .present => "*"
  | .negated => "!"
  | .plain => ""

/-- The characters that make another mark of one when they follow it. -/
def Mark.continuations : Mark → List Char
  | .lessOrEqual => ['<']
  | .greaterOrEqual => ['>']
  | .present => ['!']
  | .plain => ['<', '>', '*', '!']
  | .less | .greater | .absent | .negated => []

def Mark.EndsBefore (mark : Mark) (text : String) : Prop :=
  ∀ c ∈ text.toList.head?, c ∉ mark.continuations

def markOf : Operator → Mark
  | .exist => .present
  | .notExist => .absent
  | .compare .lt => .less
  | .compare .lte => .lessOrEqual
  | .compare .gt => .greater
  | .compare .gte => .greaterOrEqual
  | .compare .ne | .compare .notMatching => .negated
  | .compare .eq | .compare .matching | .compare .among => .plain

def signOf : Combinator → String
  | .and => "+"
  | .or => "-"
  | .independent => ""

def parameterName (combinator : Combinator) (field : String) : String :=
  root ++ ("[" ++ (signOf combinator ++ field) ++ "]")

/-- A field that clients can name: its name does not end early, has no sign of its own and does not
stand for another field. -/
structure Addressable (field : String) : Prop where
  nonempty : field ≠ ""
  stored : field ≠ "id"
  dotless : '.' ∉ field.toList
  closed : ']' ∉ field.toList
  unsigned : ∀ c ∈ field.toList.head?, c ≠ '+' ∧ c ≠ '-'

/-- The texts that write the operand of an operator, for fields of a type. -/
inductive Writes (type : FieldType) : Operator → Value → String → Prop
  | number {comparison : Comparison} (n : Int64) :
      type.primitive? = some .number → comparison.compares = true →
      Writes type (.compare comparison) (.int64 n) (Text.intText n.toInt)
  | boolean {comparison : Comparison} (b : Bool) :
      type.primitive? = some .boolean → comparison.compares = true →
      Writes type (.compare comparison) (.bool b) (if b then "true" else "false")
  | identifier {comparison : Comparison} (id : ObjectId) :
      type.isIdentifier = true → comparison.compares = true →
      Writes type (.compare comparison) (.objectId id) id.text
  | identifiers {ids : List ObjectId} :
      type.isIdentifier = true → 2 ≤ ids.length →
      Writes type (.compare .among) (.array (ids.map .objectId))
        (",".intercalate (ids.map ObjectId.text))
  | pattern {comparison : Comparison} {text : String} :
      type.primitive? = some .string → comparison.isPattern = true →
      (Pattern.read? text).isSome = true → (markOf (.compare comparison)).EndsBefore text →
      Writes type (.compare comparison) (.string text) text
  | text {comparison : Comparison} {text : String} :
      type.primitive? = some .string → comparison.orders = true →
      (markOf (.compare comparison)).EndsBefore text →
      Writes type (.compare comparison) (.string text) text
  | present {text : String} :
      Mark.present.EndsBefore text → Writes type .exist (.bool true) text
  | absent (text : String) : Writes type .notExist (.bool false) text

/-- The token of a mark is read as the mark, unless the text after it continues it. -/
theorem mark_token {asked : Mark} {text : String} (ends : asked.EndsBefore text) :
    mark (asked.token ++ text).toList = (asked, text.toList) := by
  rw [Mark.EndsBefore] at ends
  rw [String.toList_append]
  generalize text.toList = characters at ends ⊢
  cases characters with
  | nil => cases asked <;> rfl
  | cons c rest =>
    have other : c ∉ asked.continuations := ends c rfl
    cases asked with
    | less | greater | absent | negated => rfl
    | lessOrEqual | greaterOrEqual | present | plain =>
      unfold mark
      simp_all [Mark.token, Mark.continuations]

theorem combinator_sign {field : String} (addressable : Addressable field)
    (asked : Combinator) : combinator (signOf asked ++ field).toList = (asked, field.toList) := by
  have unsigned := addressable.unsigned
  rw [String.toList_append]
  generalize field.toList = characters at unsigned ⊢
  cases asked with
  | and | or => rfl
  | independent =>
    cases characters with
    | nil => rfl
    | cons c rest =>
      obtain ⟨plus, minus⟩ := unsigned c rfl
      unfold combinator
      simp_all [signOf]

theorem fieldOf?_parameterName {field : String} (addressable : Addressable field)
    (combinator : Combinator) :
    fieldOf? (parameterName combinator field) = some (signOf combinator ++ field) := by
  have unsplit : ∀ c ∈ ['.', ']'], c ∉ (signOf combinator ++ field).toList := by
    have := addressable.dotless
    have := addressable.closed
    cases combinator <;> simp_all [signOf]
  have nonempty : signOf combinator ++ field ≠ "" := by
    simp [addressable.nonempty]
  have segments : Parameters.segments? (parameterName combinator field) root =
      some [signOf combinator ++ field] := by
    have written : parameterName combinator field =
        root ++ Parameters.bracketed [signOf combinator ++ field] := by
      simp only [parameterName, Parameters.bracketed, String.append_empty]
    rw [written]
    exact Parameters.segments?_bracketed root
      (List.forall_mem_singleton.2 (unsplit ']' (by decide)))
  have path : Path.ofText (signOf combinator ++ field) = [signOf combinator ++ field] :=
    Path.ofText_single (unsplit '.' (by decide))
  rw [fieldOf?, segments]
  simp [path, nonempty]

theorem coerce_number (n : Int64) :
    coerce (Text.intText n.toInt) (some .number) = .ok (.int64 n) := by
  simp only [coerce, Number.readInt64?_text]

theorem coerce_boolean (b : Bool) :
    coerce (if b then "true" else "false") (some .boolean) = .ok (.bool b) := by
  cases b <;> rfl

theorem reference_text (id : ObjectId) : reference id.text = .ok (.objectId id) := by
  rw [reference, ObjectId.read?_text]

theorem collect_reference (ids : List ObjectId) :
    collect reference (ids.map ObjectId.text) = .ok (ids.map .objectId) := by
  induction ids with
  | nil => rfl
  | cons id rest ih =>
    rw [List.map_cons, collect, reference_text, ih]
    rfl

section Operands

variable {type : FieldType} {comparison : Comparison} {text : String}

theorem typedOperand_token {value : Value} (compares : comparison.compares = true)
    (literal : comparison.orders = true ∨ type.primitive? ≠ some .string)
    (ends : (markOf (.compare comparison)).EndsBefore text)
    (read : coerce text type.primitive? = .ok value) :
    typedOperand ((markOf (.compare comparison)).token ++ text) (some type) =
      .ok (.compare comparison, value) := by
  simp only [typedOperand, mark_token ends, String.ofList_toList, Option.bind_some, read]
  cases comparison with
  | gt | gte | lt | lte => rfl
  | eq | ne =>
    have other : type.primitive? ≠ some .string := literal.resolve_left (by decide)
    simp only [markOf, if_neg other]
    rfl
  | matching | notMatching | among => cases compares

theorem typedOperand_pattern (declared : type.primitive? = some .string)
    (asks : comparison.isPattern = true) (read : (Pattern.read? text).isSome = true)
    (ends : (markOf (.compare comparison)).EndsBefore text) :
    typedOperand ((markOf (.compare comparison)).token ++ text) (some type) =
      .ok (.compare comparison, .string text) := by
  have found : pattern text = .ok (.string text) := if_pos read
  simp only [typedOperand, mark_token ends, String.ofList_toList, Option.bind_some, declared, found]
  cases comparison with
  | matching | notMatching => rfl
  | _ => cases asks

end Operands

/-- The characters that say more in an operand than what they write. -/
def special : List Char :=
  ',' :: Mark.plain.continuations

theorem digits_not_special {digits : List Nat} (small : ∀ digit ∈ digits, digit < 16) :
    ∀ c ∈ digits.map Text.digitChar, c ∉ special := by
  have table : ∀ digit < 16, Text.digitChar digit ∉ special := by decide +kernel
  intro c there
  obtain ⟨digit, listed, rfl⟩ := List.mem_map.1 there
  exact table digit (small digit listed)

theorem not_special_intText (n : Int) : ∀ c ∈ (Text.intText n).toList, c ∉ special := by
  have digits (n : Nat) : ∀ c ∈ (Text.natText n).toList, c ∉ special := by
    rw [Text.toList_natText]
    apply digits_not_special
    intro digit there
    have := Text.decimalDigits_lt n digit there
    omega
  rw [Text.intText]
  split
  · rw [String.toList_append]
    intro c there
    rcases List.mem_append.1 there with sign | there
    · rw [List.mem_singleton.1 sign]
      decide
    · exact digits n.natAbs c there
  · exact digits n.natAbs

theorem not_special_id (id : ObjectId) : ∀ c ∈ id.text.toList, c ∉ special := by
  rw [ObjectId.text, String.toList_ofList]
  exact digits_not_special (Text.fixedDigits_lt (by decide) 24 _)

theorem Mark.EndsBefore.of_plain {asked : Mark} {text : String} (ends : plain.EndsBefore text) :
    asked.EndsBefore text := by
  intro c first
  have outside := ends c first
  cases asked <;> simp_all [continuations]

theorem endsBefore_of_not_special {asked : Mark} {text : String}
    (plain : ∀ c ∈ text.toList, c ∉ special) : asked.EndsBefore text := by
  apply Mark.EndsBefore.of_plain
  intro c first continued
  exact plain c (List.mem_of_mem_head? first) (List.mem_cons_of_mem _ continued)

theorem identifierOperand_token {comparison : Comparison} (compares : comparison.compares = true)
    (id : ObjectId) : identifierOperand ((markOf (.compare comparison)).token ++ id.text) =
      .ok (.compare comparison, .objectId id) := by
  have plain := not_special_id id
  have ends : (markOf (.compare comparison)).EndsBefore id.text := endsBefore_of_not_special plain
  have single : ((markOf (.compare comparison)).token ++ id.text).toList.contains ',' = false := by
    have absent : ',' ∉ id.text.toList := fun there => plain ',' there List.mem_cons_self
    cases comparison <;> simp [markOf, Mark.token, absent]
  rw [identifierOperand, mark_token ends, single]
  cases comparison with
  | eq | ne | gt | gte | lt | lte =>
    simp only [markOf, String.ofList_toList, reference_text]
    rfl
  | matching | notMatching | among => cases compares

theorem exists_toList_list {ids : List ObjectId} (several : 2 ≤ ids.length) :
    ∃ (id : ObjectId) (rest : List Char),
      (",".intercalate (ids.map ObjectId.text)).toList = id.text.toList ++ ',' :: rest := by
  rcases ids with _ | ⟨id, _ | ⟨next, rest⟩⟩
  · simp at several
  · simp at several
  · refine ⟨id, (",".intercalate ((next :: rest).map ObjectId.text)).toList, ?_⟩
    rw [List.map_cons, List.map_cons, String.intercalate_cons_cons]
    simp [String.toList_append]

theorem splitAt_list {ids : List ObjectId} (several : 2 ≤ ids.length) :
    Text.splitAt ',' (",".intercalate (ids.map ObjectId.text)) = ids.map ObjectId.text := by
  have comma : "," = String.singleton ',' := by decide
  rw [comma]
  apply Text.splitAt_intercalate
  · intro none
    simp [List.map_eq_nil_iff.1 none] at several
  · intro piece listed there
    obtain ⟨id, _, rfl⟩ := List.mem_map.1 listed
    exact not_special_id id ',' there List.mem_cons_self

/-- A comma makes a list, and then no mark stands before it. -/
theorem identifierOperand_list {ids : List ObjectId} (several : 2 ≤ ids.length) :
    identifierOperand (",".intercalate (ids.map ObjectId.text)) =
      .ok (.compare .among, .array (ids.map .objectId)) := by
  have pieces := splitAt_list several
  obtain ⟨id, rest, shape⟩ := exists_toList_list several
  generalize ",".intercalate (ids.map ObjectId.text) = text at pieces shape ⊢
  have ends : Mark.plain.EndsBefore text := by
    intro c first continued
    rw [shape, List.head?_append] at first
    rcases Option.or_eq_some_iff.1 first with first | ⟨_, comma⟩
    · exact not_special_id id c (List.mem_of_mem_head? first) (List.mem_cons_of_mem _ continued)
    · cases comma
      exact absurd continued (by decide)
  have listed : text.toList.contains ',' = true := by
    rw [shape]
    simp
  have marked : mark text.toList = (.plain, text.toList) := by
    simpa [Mark.token] using mark_token ends
  rw [identifierOperand, marked]
  simp only [listed, pieces, collect_reference]
  rfl

theorem isIdentifier_of_primitive {type : FieldType} {scalar : Primitive}
    (declared : type.primitive? = some scalar) (other : scalar ≠ .objectId) :
    type.isIdentifier = false := by
  rw [FieldType.primitive?] at declared
  rw [FieldType.isIdentifier]
  cases element : type.element with
  | primitive kind =>
    rw [element] at declared
    obtain rfl : kind = scalar := Option.some.inj declared
    cases kind with
    | objectId => exact absurd rfl other
    | string | number | boolean | date => rfl
  | reference | embedded | array => simp [element] at declared

theorem operand_of_presence {text : String} {type : FieldType} {operator : Operator} {value : Value}
    {rest : List Char}
    (asks : mark text.toList = (.present, rest) ∧ operator = .exist ∧ value = .bool true ∨
      mark text.toList = (.absent, rest) ∧ operator = .notExist ∧ value = .bool false) :
    operand text (some type) = .ok (operator, value) := by
  rw [operand, identifierOperand, typedOperand]
  obtain ⟨marked, rfl, rfl⟩ | ⟨marked, rfl, rfl⟩ := asks <;> rw [marked] <;> split <;> rfl

/-- The operand that a mark and a text write is read back. -/
theorem operand_writes {type : FieldType} {operator : Operator} {value : Value} {text : String}
    (writes : Writes type operator value text) :
    operand ((markOf operator).token ++ text) (some type) = .ok (operator, value) := by
  -- A type of texts, numbers or truth values is read by itself.
  have typed {scalar : Primitive} (declared : type.primitive? = some scalar)
      (other : scalar ≠ .objectId) (text : String) :
      operand text (some type) = typedOperand text (some type) := by
    rw [operand, Option.any_some, isIdentifier_of_primitive declared other]
    rfl
  cases writes with
  | number n declared compares =>
    rw [typed declared (by decide)]
    refine typedOperand_token compares (.inr (by simp [declared])) ?_ ?_
    · exact endsBefore_of_not_special (not_special_intText n.toInt)
    · rw [declared, coerce_number]
  | boolean b declared compares =>
    rw [typed declared (by decide)]
    refine typedOperand_token compares (.inr (by simp [declared])) (.of_plain ?_) ?_
    · cases b <;> simp [Mark.EndsBefore, Mark.continuations]
    · rw [declared, coerce_boolean]
  | identifier id identified compares =>
    rw [operand, Option.any_some, if_pos identified, identifierOperand_token compares]
  | identifiers identified several =>
    rw [operand, Option.any_some, if_pos identified]
    simpa [markOf, Mark.token] using identifierOperand_list several
  | pattern declared asks read ends =>
    rw [typed declared (by decide)]
    exact typedOperand_pattern declared asks read ends
  | text declared orders ends =>
    rw [typed declared (by decide)]
    exact typedOperand_token (by simp [Comparison.compares, orders]) (.inl orders) ends
      (by rw [declared]; rfl)
  | present ends => exact operand_of_presence (.inl ⟨mark_token ends, rfl, rfl⟩)
  | absent =>
    have ends : Mark.absent.EndsBefore text := by simp [Mark.EndsBefore, Mark.continuations]
    exact operand_of_presence (.inr ⟨mark_token ends, rfl, rfl⟩)

/-- A clause comes back from the parameter it is written as. For a field that clients can name, of
whatever type, the parameter compiles to that one clause, with its combinator, operator and
operand. -/
theorem compile_written {primaryKey : String} {schema : Schema} {field : String} {type : FieldType}
    {operator : Operator} {value : Value} {text : String} (combinator : Combinator)
    (declared : schema.fieldType? field = some type) (addressable : Addressable field)
    (writes : Writes type operator value text) :
    compile primaryKey schema
        [(parameterName combinator field, (markOf operator).token ++ text)] =
      .ok [⟨field, combinator, operator, value⟩] := by
  have stored : storedName primaryKey field = field := if_neg addressable.stored
  have clause : compileClause primaryKey schema (signOf combinator ++ field)
      ((markOf operator).token ++ text) = .ok (some ⟨field, combinator, operator, value⟩) := by
    rw [compileClause, combinator_sign addressable]
    cases named : field.toList with
    | nil => exact absurd (String.toList_eq_nil_iff.1 named) addressable.nonempty
    | cons c rest =>
      have name : String.ofList (c :: rest) = field := by rw [← named, String.ofList_toList]
      simp only [name, stored, declared, operand_writes writes]
      rfl
  rw [compile_cons, compileOne, fieldOf?_parameterName addressable]
  simp only [clause]
  rfl

def scores : Schema :=
  ⟨"score", [.plain "rounds" (.array (.array (.primitive .number)))]⟩

/-- Scores of minus five at most, in whichever round, or else. -/
theorem compile_written_scores :
    scores.fieldType? "rounds" = some (.array (.array (.primitive .number))) ∧
      (parameterName .or "rounds", (markOf (.compare .lte)).token ++ Text.intText (-5)) =
        ("filter[-rounds]", "<-5") ∧
      compile idKey scores [("filter[-rounds]", "<-5")] =
        .ok [⟨"rounds", .or, .compare .lte, .int64 (-5)⟩] := by
  have declared : scores.fieldType? "rounds" = some (.array (.array (.primitive .number))) := rfl
  have written : (parameterName .or "rounds", (markOf (.compare .lte)).token ++ Text.intText (-5)) =
      ("filter[-rounds]", "<-5") := by decide +kernel
  have addressable : Addressable "rounds" := by
    refine ⟨by decide, by decide, by decide, by decide, ?_⟩
    intro c first
    cases first
    decide
  refine ⟨declared, written, ?_⟩
  rw [← written]
  exact compile_written .or declared addressable (.number (-5) rfl rfl)

end Filter

end DocumentQuery
