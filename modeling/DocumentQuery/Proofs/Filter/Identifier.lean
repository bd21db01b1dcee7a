import DocumentQuery.Proofs.Filter.Readable
import DocumentQuery.Proofs.Text.Numeral

/-! Filters by an identifier. Filters compile one after the other, and each can only be
refused as an invalid argument. The filter by an identifier in full is never refused: it
compares the primary key, where that is declared as an identifier.
-/

set_option autoImplicit false

namespace DocumentQuery

namespace ObjectId

theorem exists_digitValue? {text : String} {id : ObjectId} (read : read? text = some id) :
    ∀ c ∈ text.toList, ∃ value, Text.digitValue? 16 c = some value := by
  rw [read?] at read
  split at read
  · rename_i digits leading
    exact Text.exists_digitValue? leading
  · cases read

theorem isEmpty_of_read {text : String} {id : ObjectId} (read : read? text = some id) :
    text.isEmpty = false := by
  refine Bool.eq_false_iff.2 fun empty => ?_
  rw [String.isEmpty_iff.1 empty] at read
  cases read

end ObjectId

namespace Filter

theorem mark_of_digits {text : List Char}
    (digits : ∀ c ∈ text, ∃ value, Text.digitValue? 16 c = some value) :
    mark text = (.plain, text) := by
  have no_mark {c : Char} (there : c ∈ text) (unread : Text.digitValue? 16 c = none) : False := by
    obtain ⟨value, digit⟩ := digits c there
    rw [unread] at digit
    cases digit
  unfold mark
  split
  · exact (no_mark List.mem_cons_self (by decide)).elim
  · exact (no_mark List.mem_cons_self (by decide)).elim
  · exact (no_mark List.mem_cons_self (by decide)).elim
  · exact (no_mark List.mem_cons_self (by decide)).elim
  · exact (no_mark List.mem_cons_self (by decide)).elim
  · exact (no_mark List.mem_cons_self (by decide)).elim
  · exact (no_mark List.mem_cons_self (by decide)).elim
  · rfl

theorem identifierOperand_of_read {text : String} {id : ObjectId}
    (read : ObjectId.read? text = some id) :
    identifierOperand text = .ok (.compare .eq, .objectId id) := by
  have digits := ObjectId.exists_digitValue? read
  have single : text.toList.contains ',' = false := by
    refine Bool.eq_false_iff.2 fun comma => ?_
    obtain ⟨value, digit⟩ := digits ',' (by simpa using comma)
    cases digit
  rw [identifierOperand, mark_of_digits digits]
  simp only [single, reference, String.ofList_toList, read]
  rfl

section Compilation

variable {primaryKey : String} {schema : Schema}

theorem compile_append (first second : Parameters) :
    compile primaryKey schema (first ++ second) = do
      let clauses ← compile primaryKey schema first
      return clauses ++ (← compile primaryKey schema second) := by
  induction first with
  | nil =>
    rw [List.nil_append, compile]
    cases compile primaryKey schema second <;> rfl
  | cons parameter rest ih =>
    rw [List.cons_append, compile_cons, compile_cons, ih]
    cases compileOne primaryKey schema parameter with
    | error error => rfl
    | ok clause =>
      cases compile primaryKey schema rest with
      | error error => rfl
      | ok clauses =>
        cases compile primaryKey schema second with
        | error error => rfl
        | ok others => exact congrArg Except.ok (List.append_assoc _ _ _).symm

theorem compile_byId {text : String} {id : ObjectId}
    (identified : (schema.fieldType? idKey).any (·.isIdentifier) = true)
    (read : ObjectId.read? text = some id) :
    compile idKey schema [("filter[id]", text)] =
      .ok [⟨idKey, .independent, .compare .eq, .objectId id⟩] := by
  have field : fieldOf? "filter[id]" = some "id" := by decide
  have operand : operand text (schema.fieldType? idKey) =
      .ok (.compare .eq, .objectId id) := by
    rw [operand, if_pos identified, identifierOperand_of_read read]
  have clause : compileClause idKey schema "id" text =
      .ok (some ⟨idKey, .independent, .compare .eq, .objectId id⟩) := by
    have shape : compileClause idKey schema "id" text = do
        let found ← Filter.operand text (schema.fieldType? idKey)
        return some ⟨idKey, .independent, found.1, found.2⟩ := rfl
    rw [shape, operand]
    rfl
  rw [compile_cons, compileOne, field]
  simp only [clause]
  rfl

def OnlyInvalid {α : Type} (result : Except AccessError α) : Prop :=
  ∀ error, result = .error error → error.kind = .invalidArgument

theorem onlyInvalid_ok {α : Type} (a : α) : OnlyInvalid (.ok a) := nofun

theorem OnlyInvalid.bind {α β : Type} {result : Except AccessError α}
    {next : α → Except AccessError β} (first : OnlyInvalid result)
    (later : ∀ a, OnlyInvalid (next a)) : OnlyInvalid (result >>= next) := by
  cases result with
  | error error =>
    intro other same
    cases same
    exact first error rfl
  | ok a => exact later a

theorem onlyInvalid_reference (text : String) : OnlyInvalid (reference text) := by
  rw [reference]
  cases ObjectId.read? text with
  | none => rintro error ⟨⟩; rfl
  | some id => exact onlyInvalid_ok _

theorem onlyInvalid_pattern (text : String) : OnlyInvalid (pattern text) := by
  rw [pattern]
  split
  · exact onlyInvalid_ok _
  · rintro error ⟨⟩
    rfl

theorem onlyInvalid_coerce (text : String) (type : Option Primitive) :
    OnlyInvalid (coerce text type) := by
  unfold coerce
  split
  · split
    · exact onlyInvalid_ok _
    · exact onlyInvalid_ok _
    · rintro error ⟨⟩
      rfl
  · split
    · exact onlyInvalid_ok _
    · split
      · exact onlyInvalid_ok _
      · rintro error ⟨⟩
        rfl
  · split
    · exact onlyInvalid_ok _
    · rintro error ⟨⟩
      rfl
  · exact onlyInvalid_reference text
  · exact onlyInvalid_ok _
  · exact onlyInvalid_ok _

theorem onlyInvalid_collect {α β : Type} {f : α → Except AccessError β}
    (each : ∀ a, OnlyInvalid (f a)) (inputs : List α) : OnlyInvalid (collect f inputs) := by
  induction inputs with
  | nil => exact onlyInvalid_ok []
  | cons first rest ih => exact (each first).bind fun _ => ih.bind fun _ => onlyInvalid_ok _

theorem onlyInvalid_identifierOperand (text : String) : OnlyInvalid (identifierOperand text) := by
  rw [identifierOperand]
  split
  · exact onlyInvalid_ok _
  · exact onlyInvalid_ok _
  · split
    · exact (onlyInvalid_collect onlyInvalid_reference _).bind fun _ => onlyInvalid_ok _
    · exact (onlyInvalid_reference _).bind fun _ => onlyInvalid_ok _

theorem onlyInvalid_typedOperand (text : String) (type : Option FieldType) :
    OnlyInvalid (typedOperand text type) := by
  simp only [typedOperand]
  split
  · exact onlyInvalid_ok _
  · exact onlyInvalid_ok _
  · split
    · exact (onlyInvalid_pattern _).bind fun _ => onlyInvalid_ok _
    · exact (onlyInvalid_coerce _ _).bind fun _ => onlyInvalid_ok _
  · split
    · exact (onlyInvalid_pattern _).bind fun _ => onlyInvalid_ok _
    · exact (onlyInvalid_coerce _ _).bind fun _ => onlyInvalid_ok _
  · exact (onlyInvalid_coerce _ _).bind fun _ => onlyInvalid_ok _

theorem onlyInvalid_compileOne (parameter : String × String) :
    OnlyInvalid (compileOne primaryKey schema parameter) := by
  rw [compileOne]
  split
  · rw [compileClause]
    split
    · exact onlyInvalid_ok _
    · refine OnlyInvalid.bind ?_ fun _ => onlyInvalid_ok _
      rw [operand]
      split
      · exact onlyInvalid_identifierOperand _
      · exact onlyInvalid_typedOperand _ _
  · exact onlyInvalid_ok _

theorem onlyInvalid_compile (parameters : Parameters) :
    OnlyInvalid (compile primaryKey schema parameters) := by
  induction parameters with
  | nil => exact onlyInvalid_ok []
  | cons parameter rest ih =>
    rw [compile_cons]
    exact (onlyInvalid_compileOne parameter).bind fun _ => ih.bind fun _ => onlyInvalid_ok _

end Compilation

end Filter

end DocumentQuery
