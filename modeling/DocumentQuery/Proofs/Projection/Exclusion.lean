import DocumentQuery.Projection
import DocumentQuery.Proofs.Document.Removal
import Mathlib.Data.List.Basic

/-! Selections that only exclude. The selections that plans carry are made by hiding
lists of paths and merging the results; they exclude exactly the hidden paths, and
applying one removes these paths one after the other.
-/

set_option autoImplicit false

namespace DocumentQuery.Projection

theorem mem_setEntry_self (path : String) (included : Bool) (entries : List (String × Bool)) :
    (path, included) ∈ setEntry path included entries := by
  induction entries with
  | nil => simp [setEntry]
  | cons entry rest ih =>
    rw [setEntry]
    split
    · simp
    · exact List.mem_cons_of_mem _ ih

theorem mem_setEntry_of_ne {path : String} {entry : String × Bool}
    {entries : List (String × Bool)} (included : Bool) (there : entry ∈ entries)
    (other : entry.1 ≠ path) : entry ∈ setEntry path included entries := by
  induction entries with
  | nil => simp at there
  | cons first rest ih =>
    rw [setEntry]
    rcases List.mem_cons.1 there with rfl | there
    · rw [if_neg other]
      exact List.mem_cons_self
    · split
      · exact List.mem_cons_of_mem _ there
      · exact List.mem_cons_of_mem _ (ih there)

theorem mem_setEntry {path : String} {included : Bool} {entry : String × Bool}
    {entries : List (String × Bool)} (there : entry ∈ setEntry path included entries) :
    entry = (path, included) ∨ entry ∈ entries := by
  induction entries with
  | nil => simpa [setEntry] using there
  | cons first rest ih =>
    rw [setEntry] at there
    split at there
    · rcases List.mem_cons.1 there with rfl | there
      · exact .inl rfl
      · exact .inr (List.mem_cons_of_mem _ there)
    · rcases List.mem_cons.1 there with rfl | there
      · exact .inr List.mem_cons_self
      · exact (ih there).imp id (List.mem_cons_of_mem _)

def entriesOf (projection : Option Projection) : List (String × Bool) :=
  (projection.map (·.entries)).getD []

/-- The selection excludes exactly some paths and includes nothing. -/
def ExcludesExactly (projection : Option Projection) (paths : List String) : Prop :=
  ∀ entry, entry ∈ entriesOf projection ↔ entry.2 = false ∧ entry.1 ∈ paths

theorem excludesExactly_none {paths : List String} : ExcludesExactly none paths ↔ paths = [] := by
  constructor
  · intro h
    refine List.eq_nil_iff_forall_not_mem.2 fun path there => ?_
    simpa [entriesOf] using (h (path, false)).2 ⟨rfl, there⟩
  · rintro rfl
    simp [ExcludesExactly, entriesOf]

theorem excludesExactly_excluding {projection : Projection} {paths : List String} (path : String)
    (h : ExcludesExactly (some projection) paths) :
    ExcludesExactly (some (projection.excluding path)) (paths ++ [path]) := by
  intro entry
  have old := h entry
  simp only [entriesOf, Option.map_some, Option.getD_some] at old ⊢
  simp only [excluding, set]
  constructor
  · intro there
    rcases mem_setEntry there with rfl | there
    · simp
    · exact ⟨(old.1 there).1, List.mem_append_left _ (old.1 there).2⟩
  · rintro ⟨hidden, there⟩
    by_cases same : entry.1 = path
    · have : entry = (path, false) := Prod.ext same hidden
      rw [this]
      exact mem_setEntry_self path false _
    · have : entry.1 ∈ paths := by simpa [same] using there
      exact mem_setEntry_of_ne false (old.2 ⟨hidden, this⟩) same

theorem excludesExactly_foldl {projection : Projection} {paths : List String} (more : List String)
    (h : ExcludesExactly (some projection) paths) :
    ExcludesExactly (some (more.foldl excluding projection)) (paths ++ more) := by
  induction more generalizing projection paths with
  | nil => simpa using h
  | cons path more ih =>
    have next := ih (excludesExactly_excluding path h)
    rwa [List.append_assoc] at next

theorem excludesExactly_hiding (paths : List String) : ExcludesExactly (hiding? paths) paths := by
  rw [hiding?]
  split
  · rename_i empty
    exact excludesExactly_none.2 (List.isEmpty_iff.1 empty)
  · have empty : ExcludesExactly (some {}) [] := by simp [ExcludesExactly, entriesOf]
    simpa using excludesExactly_foldl paths empty

theorem excludesExactly_merge {first second : Projection} {paths others : List String}
    (h : ExcludesExactly (some first) paths) (h' : ExcludesExactly (some second) others) :
    ExcludesExactly (some (first.merge second)) (paths ++ others) := by
  -- Every entry that is merged in is an exclusion, so merging is a sequence of exclusions.
  have merged : first.merge second = (second.entries.map Prod.fst).foldl excluding first := by
    rw [merge, List.foldl_map]
    refine List.foldl_ext _ _ _ fun projection entry there => ?_
    have hidden : entry.2 = false := ((h' entry).1 (by simpa [entriesOf] using there)).1
    simp [excluding, hidden]
  rw [merged]
  intro entry
  rw [excludesExactly_foldl _ h entry]
  have same : entry.1 ∈ second.entries.map Prod.fst ↔ entry.1 ∈ others := by
    constructor
    · intro there
      obtain ⟨other, there, same⟩ := List.mem_map.1 there
      exact same ▸ ((h' other).1 (by simpa [entriesOf] using there)).2
    · intro there
      have listed := (h' (entry.1, false)).2 ⟨rfl, there⟩
      simp only [entriesOf, Option.map_some, Option.getD_some] at listed
      exact List.mem_map.2 ⟨_, listed, rfl⟩
  simp only [List.mem_append, same]

theorem excludesExactly_both {first second : Option Projection} {paths others : List String}
    (h : ExcludesExactly first paths) (h' : ExcludesExactly second others) :
    ExcludesExactly (both? first second) (paths ++ others) := by
  cases first with
  | none => simpa [both?, excludesExactly_none.1 h] using h'
  | some first =>
    cases second with
    | none => simpa [both?, excludesExactly_none.1 h'] using h
    | some second => exact excludesExactly_merge h h'

/-- Applying a selection that only excludes removes its paths one after the other. -/
theorem applyTo_eq_removeAll {projection : Option Projection} {paths : List String}
    (h : ExcludesExactly projection paths) :
    ∃ removed : List Path, (∀ path, path ∈ removed ↔ ∃ text ∈ paths, Path.ofText text = path) ∧
      ∀ document, applyTo projection document =
        removed.foldl (fun rest path => rest.without path) document := by
  cases projection with
  | none => exact ⟨[], by simp [excludesExactly_none.1 h], fun _ => rfl⟩
  | some projection =>
    have only (entry : String × Bool) : entry ∈ projection.entries ↔
        entry.2 = false ∧ entry.1 ∈ paths := by simpa [entriesOf] using h entry
    have exclusive : projection.isInclusive = false := by
      rw [isInclusive, List.any_eq_false]
      intro entry there
      simp [((only entry).1 there).1]
    refine ⟨projection.paths false, fun path => ?_, by simp [applyTo, apply, exclusive]⟩
    simp only [Projection.paths, List.mem_map, List.mem_filter, only]
    constructor
    · rintro ⟨entry, ⟨⟨_, there⟩, _⟩, rfl⟩
      exact ⟨entry.1, there, rfl⟩
    · rintro ⟨text, there, rfl⟩
      exact ⟨(text, false), ⟨⟨rfl, there⟩, rfl⟩, rfl⟩

theorem valuesAt_applyTo {projection : Option Projection} {paths : List String} {path : Path}
    (h : ExcludesExactly projection paths) (document : Document) (excluded : path.text ∈ paths)
    (readable : Path.ofText path.text = path) (nonempty : path ≠ []) :
    (applyTo projection document).valuesAt path = [] := by
  obtain ⟨removed, listed, same⟩ := applyTo_eq_removeAll h
  rw [same]
  exact Document.valuesAt_removeAll document ((listed path).2 ⟨_, excluded, readable⟩) nonempty

theorem applyTo_keeps {projection : Option Projection} {paths : List String}
    {keeps : Document → Prop} {document : Document} (h : ExcludesExactly projection paths)
    (step : ∀ text ∈ paths, ∀ document,
      keeps document → keeps (document.without (Path.ofText text)))
    (start : keeps document) : keeps (applyTo projection document) := by
  obtain ⟨removed, listed, same⟩ := applyTo_eq_removeAll h
  rw [same]
  clear same
  have each : ∀ path ∈ removed, ∀ document, keeps document → keeps (document.without path) := by
    intro path there
    obtain ⟨text, excluded, rfl⟩ := (listed path).1 there
    exact step text excluded
  clear listed
  induction removed generalizing document with
  | nil => exact start
  | cons path removed ih =>
    exact ih (each path List.mem_cons_self document start)
      fun other there => each other (List.mem_cons_of_mem _ there)

end DocumentQuery.Projection
