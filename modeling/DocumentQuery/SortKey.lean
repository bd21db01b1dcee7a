import DocumentQuery.Query
import DocumentQuery.Text.Words

/-! Sort keys as clients write them: fields with an optional direction after a
colon, between commas or blanks.
-/

set_option autoImplicit false

namespace DocumentQuery.SortKey

/-- Only `-1`, `desc` and `descending`, in any case, sort descending. -/
def directionOf (word : List Char) : Direction :=
  let lower := String.ofList (word.map Char.toLower)
  if lower = "-1" ∨ lower = "desc" ∨ lower = "descending" then .descending else .ascending

def ofEntry? (entry : String) : Option SortKey :=
  match Text.divideAt? ':' entry.toList with
  | some ([], _) => none
  | some (field, direction) => some ⟨String.ofList field, directionOf direction⟩
  | none => some ⟨entry, .ascending⟩

def ofValues (values : List String) : List SortKey :=
  (values.flatMap Text.words).filterMap ofEntry?

end DocumentQuery.SortKey
