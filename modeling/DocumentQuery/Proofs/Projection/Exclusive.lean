import DocumentQuery.Proofs.Projection.Exclusion
import DocumentQuery.Proofs.Projection.Identifier

/-! What an exclusion leaves. A removed path is gone together with every path that goes through
it. A value that is read elsewhere stays where it is, and it stays as it is unless the removed
path goes through it: then its documents, or those in it, lose the rest of that path.
-/

set_option autoImplicit false

namespace DocumentQuery

namespace Value

theorem valuesAt_append (path rest : Path) (value : Value) :
    value.valuesAt (path ++ rest) = (value.valuesAt path).flatMap (·.valuesAt rest) := by
  induction path generalizing value with
  | nil => simp [valuesAt]
  | cons key path ih =>
    rw [List.cons_append, valuesAt_cons, valuesAt_cons, List.flatMap_assoc]
    congr 1
    funext inner
    rw [Document.valuesAt_cons, Document.valuesAt_cons]
    cases inner.get? key with
    | none => rfl
    | some next => exact ih next

/-- What is left of a value that was read at a path when another path is removed. -/
def remnant (path removed : Path) (value : Value) : Value :=
  if path <+: removed then value.mapDocuments (Document.without (removed.drop path.length))
  else value

theorem remnant_cons (key : String) (path removed : Path) :
    remnant (key :: path) (key :: removed) = remnant path removed := by
  funext value
  simp [remnant, List.cons_prefix_cons]

theorem remnant_of_apart {path removed : Path} (apart : ¬ path <+: removed) :
    remnant path removed = id := by
  funext value
  rw [remnant, if_neg apart, id]

theorem valuesAt_mapDocuments_without {path removed : Path} (kept : ¬ removed <+: path)
    (value : Value) :
    (value.mapDocuments (Document.without removed)).valuesAt path =
      (value.valuesAt path).map (remnant path removed) := by
  induction path generalizing removed value with
  | nil => simp [valuesAt, remnant]
  | cons key path ih =>
    rw [valuesAt_cons, valuesAt_cons, documents_mapDocuments, List.flatMap_map, List.map_flatMap]
    congr 1
    funext inner
    rw [Document.valuesAt_cons, Document.valuesAt_cons]
    rcases removed with _ | ⟨first, _ | ⟨next, removed⟩⟩
    · exact absurd List.nil_prefix kept
    · have other : first ≠ key := by
        rintro rfl
        exact kept (List.cons_prefix_cons.2 ⟨rfl, List.nil_prefix⟩)
      have apart : ¬ key :: path <+: [first] :=
        fun starts => other (List.cons_prefix_cons.1 starts).1.symm
      rw [remnant_of_apart apart, List.map_id, Document.without, Document.get?_erase, if_neg other]
    · rw [Document.without_cons_cons, Document.get?_modify]
      by_cases same : first = key
      · subst same
        have further : ¬ next :: removed <+: path :=
          fun starts => kept (List.cons_prefix_cons.2 ⟨rfl, starts⟩)
        rw [if_pos rfl, remnant_cons]
        cases inner.get? first with
        | none => rfl
        | some value => exact ih further value
      · have apart : ¬ key :: path <+: first :: next :: removed :=
          fun starts => same (List.cons_prefix_cons.1 starts).1.symm
        rw [if_neg same, remnant_of_apart apart, List.map_id]

end Value

namespace Document

variable {path removed : Path}

theorem valuesAt_of_prefix {document : Document} (starts : removed <+: path)
    (gone : document.valuesAt removed = []) : document.valuesAt path = [] := by
  obtain ⟨rest, rfl⟩ := starts
  rw [valuesAt, Value.valuesAt_append, ← valuesAt, gone, List.flatMap_nil]

theorem valuesAt_without (kept : ¬ removed <+: path) (document : Document) :
    (document.without removed).valuesAt path =
      (document.valuesAt path).map (Value.remnant path removed) :=
  Value.valuesAt_mapDocuments_without kept (.document document)

theorem valuesAt_removeAll_of_apart {paths : List Path}
    (apart : ∀ removed ∈ paths, ¬ removed <+: path ∧ ¬ path <+: removed) (document : Document) :
    (paths.foldl (fun rest path => rest.without path) document).valuesAt path =
      document.valuesAt path := by
  induction paths generalizing document with
  | nil => rfl
  | cons first paths ih =>
    obtain ⟨kept, unbroken⟩ := apart first List.mem_cons_self
    rw [List.foldl_cons, ih fun removed there => apart removed (List.mem_cons_of_mem _ there),
      valuesAt_without kept, Value.remnant_of_apart unbroken, List.map_id]

/-- Removals of paths that lead elsewhere or further leave a value for each that was there. -/
theorem valuesAt_removeAll_of_kept {paths : List Path}
    (kept : ∀ removed ∈ paths, ¬ removed <+: path) (document : Document) :
    (paths.foldl (fun rest path => rest.without path) document).valuesAt path =
      (document.valuesAt path).map fun value =>
        paths.foldl (fun value removed => value.remnant path removed) value := by
  induction paths generalizing document with
  | nil => exact (List.map_id _).symm
  | cons first paths ih =>
    rw [List.foldl_cons, ih fun removed there => kept removed (List.mem_cons_of_mem _ there),
      valuesAt_without (kept first List.mem_cons_self), List.map_map]
    rfl

def holding (value : Value) : Path → Document
  | [] => []
  | [key] => [(key, value)]
  | key :: rest => [(key, .document (holding value rest))]

theorem valuesAt_holding (value : Value) {path : Path} (nonempty : path ≠ []) :
    (holding value path).valuesAt path = [value] := by
  induction path with
  | nil => exact absurd rfl nonempty
  | cons key rest ih =>
    rcases rest with _ | ⟨next, rest⟩
    · rw [holding, valuesAt_cons, get?, if_pos rfl]
      rfl
    · rw [holding, valuesAt_cons, get?, if_pos rfl]
      · exact ih (List.cons_ne_nil _ _)
      · simp

end Document

namespace Projection

theorem excludesExactly_of_exclusive {projection : Projection}
    (exclusive : ∀ entry ∈ projection.entries, entry.2 = false) :
    ExcludesExactly (some projection) (projection.entries.map Prod.fst) := by
  intro entry
  constructor
  · intro there
    exact ⟨exclusive entry there, List.mem_map_of_mem there⟩
  · rintro ⟨hidden, named⟩
    obtain ⟨other, there, same⟩ := List.mem_map.1 named
    have entry_eq : entry = other := Prod.ext same.symm (hidden.trans (exclusive other there).symm)
    exact entry_eq ▸ there

/-- A selection that only excludes empties its paths and all that go through them. It keeps the
values at paths apart from these as they are, and at the other paths, which end on the way to an
excluded one, it keeps a value for each. -/
theorem apply_exclusive {projection : Projection}
    (exclusive : ∀ entry ∈ projection.entries, entry.2 = false) (document : Document) :
    (∀ entry ∈ projection.entries, ∀ path, Path.ofText entry.1 <+: path →
      (projection.apply document).valuesAt path = []) ∧
    (∀ path, (∀ entry ∈ projection.entries,
        ¬ Path.ofText entry.1 <+: path ∧ ¬ path <+: Path.ofText entry.1) →
      (projection.apply document).valuesAt path = document.valuesAt path) ∧
    ∀ path, (∀ entry ∈ projection.entries, ¬ Path.ofText entry.1 <+: path) →
      ((projection.apply document).valuesAt path).length = (document.valuesAt path).length := by
  obtain ⟨paths, listed, same⟩ := applyTo_eq_removeAll (excludesExactly_of_exclusive exclusive)
  have applied : projection.apply document =
      paths.foldl (fun rest path => rest.without path) document := same document
  have excluded : ∀ removed ∈ paths, ∃ entry ∈ projection.entries,
      Path.ofText entry.1 = removed := by
    intro removed there
    obtain ⟨text, named, same⟩ := (listed removed).1 there
    obtain ⟨entry, among, rfl⟩ := List.mem_map.1 named
    exact ⟨entry, among, same⟩
  rw [applied]
  refine ⟨fun entry there path starts => ?_, fun path apart => ?_, fun path kept => ?_⟩
  · have removed : Path.ofText entry.1 ∈ paths :=
      (listed _).2 ⟨entry.1, List.mem_map_of_mem there, rfl⟩
    exact Document.valuesAt_of_prefix starts
      (Document.valuesAt_removeAll document removed (Path.ofText_ne_nil _))
  · refine Document.valuesAt_removeAll_of_apart (fun removed there => ?_) document
    obtain ⟨entry, listed, rfl⟩ := excluded removed there
    exact apart entry listed
  · have elsewhere : ∀ removed ∈ paths, ¬ removed <+: path := by
      intro removed there
      obtain ⟨entry, listed, rfl⟩ := excluded removed there
      exact kept entry listed
    rw [Document.valuesAt_removeAll_of_kept elsewhere, List.length_map]

/-- A post whose comments are documents but for one, and a selection with an exclusion inside
another. -/
theorem apply_exclusive_comments :
    let selection : Projection :=
      ⟨[("comments.text.de", false), ("comments.text", false), ("title", false)]⟩
    let post : Document :=
      [("title", .string "Rivers"),
        ("comments", .array
          [.document [("text", .document [("en", .string "hi"), ("de", .string "moin")]),
              ("likes", .int64 1)],
            .string "gone", .document [("likes", .int64 2)]])]
    (∀ entry ∈ selection.entries, entry.2 = false) ∧
      (selection.apply post).valuesAt ["comments", "text", "en"] = [] ∧
      (selection.apply post).valuesAt ["comments", "likes"] = [.int64 1, .int64 2] ∧
      ((selection.apply post).valuesAt ["comments"]).length = 1 := by
  intro selection post
  have exclusive : ∀ entry ∈ selection.entries, entry.2 = false := by decide
  obtain ⟨gone, unchanged, counted⟩ := apply_exclusive exclusive post
  refine ⟨exclusive, ?_, ?_, ?_⟩
  · exact gone ("comments.text", false) (by decide) _ (by decide +kernel)
  · exact unchanged _ (by decide +kernel)
  · exact counted _ (by decide +kernel)

end Projection

end DocumentQuery
