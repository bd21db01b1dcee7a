import DocumentQuery.Proofs.Filter.Conjunction
import DocumentQuery.Proofs.Filter.Rendered

/-! Types of operands. Whatever text a filter gives a field, the clause compares a value of the
declared type of the field, within any number of array layers. Lists of identifiers are asked of
identifier fields only and hold all of their tokens; patterns are asked of text fields only and can
be read.
-/

set_option autoImplicit false

namespace DocumentQuery

namespace Text

theorem two_le_length_splitAt {c : Char} {text : String} (there : c ∈ text.toList) :
    2 ≤ (splitAt c text).length := by
  obtain ⟨before, after, divided⟩ := List.append_of_mem there
  have pieces : text.toList.splitOn c = before.splitOn c ++ after.splitOn c := by
    rw [divided]
    exact List.splitOnP_append_cons before after (beq_self_eq_true c)
  have one (part : List Char) : 0 < (part.splitOn c).length :=
    List.length_pos_iff.2 (List.splitOnP_ne_nil _ part)
  have := one before
  have := one after
  rw [splitAt, List.length_map, pieces, List.length_append]
  omega

end Text

namespace Filter

/-- The single values that a field of a type is compared with: those of its type, an identifier for
a reference, and a text for a document or where no type is declared. -/
inductive Suits : Option FieldType → Value → Prop
  | layer {element : FieldType} {value : Value} :
      Suits (some element) value → Suits (some (.array element)) value
  | integer (n : Int64) : Suits (some (.primitive .number)) (.int64 n)
  | double (x : Binary64) : Suits (some (.primitive .number)) (.double x)
  | boolean (b : Bool) : Suits (some (.primitive .boolean)) (.bool b)
  | date (time : Timestamp) : Suits (some (.primitive .date)) (.date time)
  | string (text : String) : Suits (some (.primitive .string)) (.string text)
  | objectId (id : ObjectId) : Suits (some (.primitive .objectId)) (.objectId id)
  | reference (target : String) (id : ObjectId) : Suits (some (.reference target)) (.objectId id)
  | embedded (schema : Schema) (text : String) : Suits (some (.embedded schema)) (.string text)
  | undeclared (text : String) : Suits none (.string text)

/-- What a filter value asks of a field of a type, as an operator with an operand. -/
structure Typed (type : Option FieldType) (text : String) (operator : Operator) (value : Value) :
    Prop where
  /-- Tests of presence, and nothing else, are written with a star. -/
  presence : operator = .exist ∨ operator = .notExist ↔ text.toList.head? = some '*'
  operand : operator = .exist ∨ operator = .notExist ∨ operator = .compare .among ∨
    Suits type value
  /-- Identifier fields are asked for lists wherever there is a comma. -/
  list_iff : operator = .compare .among ↔
    type.any (·.isIdentifier) = true ∧ ',' ∈ text.toList ∧ text.toList.head? ≠ some '*'
  list : operator = .compare .among → ∃ ids : List ObjectId, value = .array (ids.map .objectId) ∧
    2 ≤ ids.length ∧ (Text.splitAt ',' text).map ObjectId.read? = ids.map some
  /-- Text fields are asked for patterns unless they are asked for their order or presence. -/
  pattern_iff : operator = .compare .matching ∨ operator = .compare .notMatching ↔
    type.bind (·.primitive?) = some .string ∧ ∀ c ∈ text.toList.head?, c ∉ ['<', '>', '*']
  pattern : operator = .compare .matching ∨ operator = .compare .notMatching →
    ∃ pattern, value = .string pattern ∧ (Pattern.read? pattern).isSome = true

theorem mark_presence (text : List Char) :
    (mark text).1 = .present ∨ (mark text).1 = .absent ↔ text.head? = some '*' := by
  fun_cases mark text with
  | case8 _ _ _ _ _ _ star =>
    cases text with
    | nil => simp
    | cons c rest =>
      have other : c ≠ '*' := fun same => star rest (by rw [same])
      simp [other]
  | _ => simp

theorem mark_equality (text : List Char) :
    (mark text).1 = .plain ∨ (mark text).1 = .negated ↔ ∀ c ∈ text.head?, c ∉ ['<', '>', '*'] := by
  fun_cases mark text with
  | case8 _ _ less _ greater _ star =>
    cases text with
    | nil => simp
    | cons c rest =>
      have other : c ≠ '<' ∧ c ≠ '>' ∧ c ≠ '*' :=
        ⟨fun same => less rest (by rw [same]), fun same => greater rest (by rw [same]),
          fun same => star rest (by rw [same])⟩
      simp [other]
  | _ => simp

section Values

theorem Suits.of_element {type : FieldType} {value : Value}
    (suits : Suits (some type.element) value) : Suits (some type) value := by
  fun_induction FieldType.element type with
  | case1 element ih => exact .layer (ih suits)
  | case2 type => exact suits

theorem suits_identifier {type : FieldType} (identified : type.isIdentifier = true)
    (id : ObjectId) : Suits (some type) (.objectId id) := by
  apply Suits.of_element
  rw [FieldType.isIdentifier] at identified
  split at identified
  · rename_i target element
    rw [element]
    exact .reference target id
  · rename_i element
    rw [element]
    exact .objectId id
  · cases identified

theorem suits_text {type : FieldType} (declared : type.primitive? = some .string) (text : String) :
    Suits (some type) (.string text) := by
  apply Suits.of_element
  rw [FieldType.primitive?] at declared
  split at declared
  · rename_i scalar element
    cases declared
    rw [element]
    exact .string text
  · cases declared

theorem suits_coerce {type : Option FieldType} {text : String} {value : Value}
    (other : type.any (·.isIdentifier) = false)
    (read : coerce text (type.bind (·.primitive?)) = .ok value) : Suits type value := by
  cases type with
  | none =>
    cases read
    exact .undeclared text
  | some type =>
    apply Suits.of_element
    rw [Option.any_some, FieldType.isIdentifier] at other
    rw [Option.bind_some, FieldType.primitive?] at read
    cases element : type.element with
    | array inner => exact absurd element (type.element_ne_array inner)
    | reference target => simp [element] at other
    | embedded schema =>
      rw [element] at read
      cases read
      exact .embedded schema text
    | primitive scalar =>
      rw [element] at read
      cases scalar with
      | objectId => simp [element] at other
      | string =>
        cases read
        exact .string text
      | number =>
        simp only [coerce] at read
        split at read
        · cases read
          exact .integer _
        · cases read
          exact .double _
        · cases read
      | boolean =>
        simp only [coerce] at read
        split at read
        · cases read
          exact .boolean true
        · split at read
          · cases read
            exact .boolean false
          · cases read
      | date =>
        simp only [coerce] at read
        split at read
        · cases read
          exact .date _
        · cases read

theorem string_of_pattern {text : String} {value : Value} (read : pattern text = .ok value) :
    value = .string text ∧ (Pattern.read? text).isSome = true := by
  rw [pattern] at read
  split at read
  · rename_i readable
    cases read
    exact ⟨rfl, readable⟩
  · cases read

theorem objectId_of_reference {text : String} {value : Value} (read : reference text = .ok value) :
    ∃ id, value = .objectId id ∧ ObjectId.read? text = some id := by
  rw [reference] at read
  split at read
  · rename_i id found
    cases read
    exact ⟨id, rfl, found⟩
  · cases read

theorem objectIds_of_collect {tokens : List String} {values : List Value}
    (read : collect reference tokens = .ok values) : ∃ ids : List ObjectId,
      values = ids.map .objectId ∧ tokens.map ObjectId.read? = ids.map some := by
  induction tokens generalizing values with
  | nil =>
    cases read
    exact ⟨[], rfl, rfl⟩
  | cons token rest ih =>
    obtain ⟨first, one, read⟩ := ok_of_bind read
    obtain ⟨others, more, same⟩ := ok_of_bind read
    cases same
    obtain ⟨id, rfl, found⟩ := objectId_of_reference one
    obtain ⟨ids, rfl, founds⟩ := ih more
    exact ⟨id :: ids, rfl, by rw [List.map_cons, List.map_cons, found, founds]⟩

end Values

section Operands

variable {type : Option FieldType} {text : String} {operator : Operator} {value : Value}

theorem typed_presence (star : text.toList.head? = some '*')
    (asks : operator = .exist ∨ operator = .notExist) : Typed type text operator value where
  presence := iff_of_true asks star
  operand := asks.elim .inl fun absent => .inr (.inl absent)
  list_iff := iff_of_false (by rcases asks with rfl | rfl <;> nofun) fun list => list.2.2 star
  list := by rcases asks with rfl | rfl <;> nofun
  pattern_iff := iff_of_false (by rcases asks with rfl | rfl <;> nofun)
    fun pattern => pattern.2 '*' star (by decide)
  pattern := by rcases asks with rfl | rfl <;> nofun

theorem typed_single {comparison : Comparison} (compares : comparison.compares = true)
    (star : text.toList.head? ≠ some '*') (suits : Suits type value)
    (single : type.any (·.isIdentifier) = true → ',' ∉ text.toList)
    (literal : type.bind (·.primitive?) = some .string →
      ¬ ∀ c ∈ text.toList.head?, c ∉ ['<', '>', '*']) :
    Typed type text (.compare comparison) value where
  presence := iff_of_false nofun star
  operand := .inr (.inr (.inr suits))
  list_iff := iff_of_false (by rintro ⟨⟩; cases compares) fun list => single list.1 list.2.1
  list := by rintro ⟨⟩; cases compares
  pattern_iff := iff_of_false (by rintro (⟨⟨⟩⟩ | ⟨⟨⟩⟩) <;> cases compares)
    fun pattern => literal pattern.1 pattern.2
  pattern := by rintro (⟨⟨⟩⟩ | ⟨⟨⟩⟩) <;> cases compares

theorem typed_pattern {comparison : Comparison} {pattern : String}
    (asks : comparison = .matching ∨ comparison = .notMatching)
    (declared : type.bind (·.primitive?) = some .string)
    (unordered : ∀ c ∈ text.toList.head?, c ∉ ['<', '>', '*'])
    (readable : (Pattern.read? pattern).isSome = true) :
    Typed type text (.compare comparison) (.string pattern) where
  presence := iff_of_false nofun fun star => unordered '*' star (by decide)
  operand := by
    obtain ⟨type, rfl, primitive⟩ := Option.bind_eq_some_iff.1 declared
    exact .inr (.inr (.inr (suits_text primitive pattern)))
  list_iff := by
    obtain ⟨type, rfl, primitive⟩ := Option.bind_eq_some_iff.1 declared
    refine iff_of_false (by rcases asks with rfl | rfl <;> nofun) fun list => ?_
    rw [Option.any_some, isIdentifier_of_primitive primitive (by decide)] at list
    cases list.1
  list := by rcases asks with rfl | rfl <;> nofun
  pattern_iff := iff_of_true (asks.imp (congrArg _) (congrArg _)) ⟨declared, unordered⟩
  pattern := fun _ => ⟨pattern, rfl, readable⟩

theorem typed_list {type : FieldType} {values : List Value} (identified : type.isIdentifier = true)
    (star : text.toList.head? ≠ some '*') (comma : ',' ∈ text.toList)
    (read : collect reference (Text.splitAt ',' text) = .ok values) :
    Typed (some type) text (.compare .among) (.array values) where
  presence := iff_of_false nofun star
  operand := .inr (.inr (.inl rfl))
  list_iff := iff_of_true rfl ⟨identified, comma, star⟩
  list := by
    intro _
    obtain ⟨ids, rfl, tokens⟩ := objectIds_of_collect read
    refine ⟨ids, rfl, ?_, tokens⟩
    have several := Text.two_le_length_splitAt comma
    have same := congrArg List.length tokens
    rw [List.length_map, List.length_map] at same
    omega
  pattern_iff := by
    refine iff_of_false nofun fun pattern => ?_
    rw [Option.bind_some] at pattern
    rw [isIdentifier_of_primitive pattern.1 (by decide)] at identified
    cases identified
  pattern := nofun

theorem compares_comparison (mark : Mark) : mark.comparison.compares = true := by
  cases mark <;> rfl

theorem typed_identifierOperand {type : FieldType} (identified : type.isIdentifier = true)
    (read : identifierOperand text = .ok (operator, value)) :
    Typed (some type) text operator value := by
  have starred := mark_presence text.toList
  rw [identifierOperand] at read
  split at read
  · rename_i marked
    cases read
    exact typed_presence (starred.1 (.inl (by rw [marked]))) (.inl rfl)
  · rename_i marked
    cases read
    exact typed_presence (starred.1 (.inr (by rw [marked]))) (.inr rfl)
  · rename_i mark rest present absent marked
    have star : text.toList.head? ≠ some '*' := by
      intro head
      rw [marked] at starred
      rcases starred.2 head with rfl | rfl
      · exact present rfl
      · exact absent rfl
    split at read
    · rename_i comma
      obtain ⟨values, tokens, same⟩ := ok_of_bind read
      cases same
      exact typed_list identified star (by simpa using comma) tokens
    · rename_i single
      obtain ⟨id, token, same⟩ := ok_of_bind read
      cases same
      obtain ⟨id, rfl, _⟩ := objectId_of_reference token
      refine typed_single (compares_comparison mark) star (suits_identifier identified id)
        (fun _ comma => single (by simpa using comma)) fun text => ?_
      rw [isIdentifier_of_primitive text (by decide)] at identified
      cases identified

theorem typed_equality {rest : String} {matched comparison : Comparison}
    (other : type.any (·.isIdentifier) = false)
    (unordered : ∀ c ∈ text.toList.head?, c ∉ ['<', '>', '*'])
    (asks : matched = .matching ∨ matched = .notMatching) (compares : comparison.compares = true)
    (read : (if type.bind (·.primitive?) = some .string then
        do return (.compare matched, ← pattern rest)
      else do return (.compare comparison, ← coerce rest (type.bind (·.primitive?)))) =
        Except.ok (operator, value)) : Typed type text operator value := by
  split at read
  · rename_i declared
    obtain ⟨_, found, same⟩ := ok_of_bind read
    cases same
    obtain ⟨rfl, readable⟩ := string_of_pattern found
    exact typed_pattern asks declared unordered readable
  · rename_i literal
    obtain ⟨_, found, same⟩ := ok_of_bind read
    cases same
    exact typed_single compares (fun star => unordered '*' star (by decide))
      (suits_coerce other found) (by simp [other]) fun declared => absurd declared literal

theorem typed_typedOperand (other : type.any (·.isIdentifier) = false)
    (read : typedOperand text type = .ok (operator, value)) : Typed type text operator value := by
  have starred := mark_presence text.toList
  have unordered := mark_equality text.toList
  simp only [typedOperand] at read
  split at read
  · rename_i marked
    cases read
    exact typed_presence (starred.1 (.inl marked)) (.inl rfl)
  · rename_i marked
    cases read
    exact typed_presence (starred.1 (.inr marked)) (.inr rfl)
  · rename_i marked
    exact typed_equality other (unordered.1 (.inr marked)) (.inr rfl) rfl read
  · rename_i marked
    exact typed_equality other (unordered.1 (.inl marked)) (.inl rfl) rfl read
  · rename_i mark present absent negated plain
    obtain ⟨_, found, same⟩ := ok_of_bind read
    cases same
    refine typed_single (compares_comparison _) (fun star => ?_) (suits_coerce other found)
      (by simp [other]) fun _ equality => ?_
    · exact (starred.2 star).elim present absent
    · exact (unordered.2 equality).elim plain negated

/-- The operand of a field is of the type of the field. -/
theorem typed_operand (read : operand text type = .ok (operator, value)) :
    Typed type text operator value := by
  rw [operand] at read
  split at read
  · rename_i identified
    cases type with
    | none => cases identified
    | some type => exact typed_identifierOperand identified read
  · rename_i other
    exact typed_typedOperand (Bool.eq_false_iff.2 other) read

end Operands

/-- The stored field that a clause is about, given what a parameter says of it. -/
def target (primaryKey field : String) : String :=
  storedName primaryKey (String.ofList (combinator field.toList).2)

/-- A clause is about the field that its parameter names. It tests the presence of the field, or its
operand is of the declared type of the field; it asks for a list exactly where an identifier field
is given several tokens, and for a pattern exactly where a text field is given no order. -/
theorem compileClause_typed {primaryKey : String} {schema : Schema} {field text : String}
    {clause : Clause} (compiled : compileClause primaryKey schema field text = .ok (some clause)) :
    clause.field = target primaryKey field ∧
      Typed (schema.fieldType? clause.field) text clause.operator clause.value := by
  rw [compileClause] at compiled
  split at compiled
  · cases compiled
  · rename_i combinator name _ divided
    obtain ⟨⟨operator, value⟩, read, same⟩ := ok_of_bind compiled
    cases same
    refine ⟨?_, typed_operand read⟩
    rw [target, divided]

def papers : Schema :=
  ⟨"paper", [.plain "groups" (.array (.array (.reference "author")))]⟩

/-- The papers of two authors, whatever their groups. -/
theorem compileClause_typed_papers :
    compileClause idKey papers "-groups" "00000000000000000000000a,00000000000000000000000B" =
        .ok (some ⟨"groups", .or, .compare .among, .array [.objectId ⟨10⟩, .objectId ⟨11⟩]⟩) ∧
      "groups" = target idKey "-groups" ∧
      Typed (some (.array (.array (.reference "author"))))
        "00000000000000000000000a,00000000000000000000000B" (.compare .among)
        (.array [.objectId ⟨10⟩, .objectId ⟨11⟩]) := by
  have compiled : compileClause idKey papers "-groups"
      "00000000000000000000000a,00000000000000000000000B" =
        .ok (some ⟨"groups", .or, .compare .among, .array [.objectId ⟨10⟩, .objectId ⟨11⟩]⟩) :=
    ok_of_toOption (by decide +kernel)
  exact ⟨compiled, compileClause_typed compiled⟩

end Filter

end DocumentQuery
