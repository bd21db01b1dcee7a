import DocumentQuery.Proofs.Projection.Erasure
import DocumentQuery.Proofs.Projection.Exclusive

/-! Merged exclusions. A merged selection keeps one entry for a path that both parts exclude,
while a removal takes away all that lies below its path; but removals of any two paths commute,
also where one lies within the other. So a merged selection shows what its parts show one after
the other, whichever of them comes first.
-/

set_option autoImplicit false

namespace DocumentQuery.Projection

section Parts

variable {first second : Option Projection} {paths others : List String}

/-- Of two selections that only exclude it is of no account which is applied first. -/
theorem applyTo_comm (excludes : ExcludesExactly first paths)
    (excludes' : ExcludesExactly second others) (document : Document) :
    applyTo second (applyTo first document) = applyTo first (applyTo second document) := by
  obtain ⟨removed, _, same⟩ := applyTo_eq_removeAll excludes
  obtain ⟨removed', _, same'⟩ := applyTo_eq_removeAll excludes'
  rw [same, same', same', same]
  exact Document.removeAll_comm removed' removed document

theorem applyTo_both_comm (excludes : ExcludesExactly first paths)
    (excludes' : ExcludesExactly second others) (document : Document) :
    applyTo (both? first second) document = applyTo (both? second first) document := by
  rw [applyTo_both excludes excludes', applyTo_both excludes' excludes,
    applyTo_comm excludes excludes']

end Parts

variable {first second : Projection}

/-- A selection that was merged from two that only exclude shows of every document what the one
shows of what the other does, in either order. So it shows the same when they are merged the other
way round, and in particular when what is kept for administrators and the variants for other locales
are. -/
theorem merge_composes (exclusive : ∀ entry ∈ first.entries, entry.2 = false)
    (exclusive' : ∀ entry ∈ second.entries, entry.2 = false) (document : Document) :
    (first.merge second).apply document = second.apply (first.apply document) ∧
      (first.merge second).apply document = first.apply (second.apply document) ∧
      (second.merge first).apply document = (first.merge second).apply document ∧
      ∀ (schema : Schema) (locale : String) (supported : List String),
        applyTo (both? schema.adminExclusions? (schema.localeExclusions? locale supported))
            document =
          applyTo (both? (schema.localeExclusions? locale supported) schema.adminExclusions?)
            document := by
  have excludes := excludesExactly_of_exclusive exclusive
  have excludes' := excludesExactly_of_exclusive exclusive'
  have merged : (first.merge second).apply document = second.apply (first.apply document) :=
    applyTo_both excludes excludes' document
  have commuting : second.apply (first.apply document) = first.apply (second.apply document) :=
    applyTo_comm excludes excludes' document
  refine ⟨merged, merged.trans commuting, ?_, fun schema locale supported => ?_⟩
  · exact (applyTo_both_comm excludes excludes' document).symm
  · exact applyTo_both_comm (excludesExactly_hiding _) (excludesExactly_hiding _) document

/-- One selection excludes texts of comments as a whole, the other those in one language and the
likes; comments may also be mere strings. -/
theorem merge_composes_comments :
    let texts : Projection := ⟨[("comments.text", false), ("title", false)]⟩
    let german : Projection := ⟨[("comments.text.de", false), ("comments.likes", false)]⟩
    let post : Document :=
      [("title", .string "Rivers"),
        ("comments", .array
          [.document [("text", .document [("en", .string "hi"), ("de", .string "moin")]),
              ("likes", .int64 1), ("by", .string "a")],
            .string "gone"])]
    (∀ entry ∈ texts.entries, entry.2 = false) ∧ (∀ entry ∈ german.entries, entry.2 = false) ∧
      (texts.merge german).apply post = texts.apply (german.apply post) ∧
      (german.merge texts).apply post = (texts.merge german).apply post := by
  intro texts german post
  have exclusive : ∀ entry ∈ texts.entries, entry.2 = false := by decide
  have exclusive' : ∀ entry ∈ german.entries, entry.2 = false := by decide
  obtain ⟨_, reversed, commuting, _⟩ := merge_composes exclusive exclusive' post
  exact ⟨exclusive, exclusive', reversed, commuting⟩

end DocumentQuery.Projection
