import DocumentQuery.Proofs.Document.Modification
import DocumentQuery.Proofs.Projection.Exclusion
import DocumentQuery.Proofs.Schema.Structure

/-! Erasing a key. What a path reads elsewhere in a document stays when a key is erased,
and a selection that excludes the key shows the same of the document before and after. Likewise
two selections that only exclude, one merged into the other, show what they show one after the
other.
-/

set_option autoImplicit false

namespace DocumentQuery

namespace Document

variable {key : String}

theorem valuesAt_erase {path : Path} (nonempty : path ≠ []) (elsewhere : path.head? ≠ some key)
    (document : Document) : (document.erase key).valuesAt path = document.valuesAt path := by
  cases path with
  | nil => exact absurd rfl nonempty
  | cons first rest =>
    have other : key ≠ first := fun same => elsewhere (congrArg some same.symm)
    rw [valuesAt_cons, valuesAt_cons, get?_erase, if_neg other]

end Document

theorem Projection.applyTo_erase {projection : Option Projection} {paths : List String}
    {key : String} (excludes : ExcludesExactly projection paths) (listed : key ∈ paths)
    (dotless : '.' ∉ key.toList) (document : Document) :
    applyTo projection (document.erase key) = applyTo projection document := by
  obtain ⟨removed, there, same⟩ := applyTo_eq_removeAll excludes
  rw [same, same]
  exact Document.removeAll_of_mem ((there [key]).2 ⟨key, listed, Path.ofText_single dotless⟩)
    document

/-- A merged selection excludes first what the one excludes and then what the other does. -/
theorem Projection.applyTo_both {first second : Option Projection} {paths others : List String}
    (excludes : ExcludesExactly first paths) (excludes' : ExcludesExactly second others)
    (document : Document) :
    applyTo (both? first second) document = applyTo second (applyTo first document) := by
  obtain ⟨removed, there, same⟩ := applyTo_eq_removeAll excludes
  obtain ⟨removed', there', same'⟩ := applyTo_eq_removeAll excludes'
  obtain ⟨all, listed, merged⟩ := applyTo_eq_removeAll (excludesExactly_both excludes excludes')
  rw [merged, same, same', ← List.foldl_append]
  apply Document.removeAll_congr
  intro path
  rw [listed, List.mem_append, there, there']
  simp only [List.mem_append, or_and_right, exists_or]

end DocumentQuery
