import DocumentQuery.Proofs.Backend.Trace
import DocumentQuery.Proofs.Population.Identity
import Mathlib.Data.List.Forall2

/-! Calls of an expansion. Whatever the documents and however many there are, a path is fetched in
one call, with each identifier once, or in none.
-/

set_option autoImplicit false

namespace DocumentQuery

/-- The call fetches documents of a collection, at least one and none twice. -/
def Call.Fetches (call : Call) (target : String) (projection : Option Projection) : Prop :=
  ∃ ids, call = .get target ids projection ∧ ids ≠ [] ∧ ids.Nodup

def Call.FetchesFor (call : Call) (directive : Directive) : Prop :=
  ∃ target, directive.target = some target ∧ call.Fetches target directive.projection

def Call.FetchesAt (registry : Registry) (root : Schema) (call : Call) (path : String) : Prop :=
  ∃ target, Population.deepTarget? registry root (Path.ofText path) = some target ∧
    call.Fetches target (Population.deepSelection registry target)

namespace Population

open Observed

theorem nodup_foldl_distinct {seen : List ObjectId} (nodup : seen.Nodup) (ids : List ObjectId) :
    (ids.foldl (fun seen id => if id ∈ seen then seen else seen ++ [id]) seen).Nodup := by
  induction ids generalizing seen with
  | nil => exact nodup
  | cons id rest ih =>
    rw [List.foldl_cons]
    refine ih ?_
    split
    · exact nodup
    · rename_i fresh
      refine List.nodup_append.2 ⟨nodup, by simp, ?_⟩
      rintro other there _ last rfl
      exact fresh (List.mem_singleton.1 last ▸ there)

theorem nodup_distinct (ids : List ObjectId) : (distinct ids).Nodup :=
  nodup_foldl_distinct .nil ids

/-- The call, if there is one, that serves the first of some requests goes in front of the calls for
the others. -/
theorem sublist_calls_cons {α : Type} {serves : Call → α → Prop} {request : α} {requests : List α}
    {calls more : List Call}
    (first : calls = [] ∨ ∃ call, calls = [call] ∧ serves call request)
    (rest : List.SublistForall₂ serves more requests) :
    List.SublistForall₂ serves (calls ++ more) (request :: requests) := by
  rcases first with rfl | ⟨call, rfl, served⟩
  · exact .cons_right rest
  · exact .cons served rest

section Expansion

variable (refuses : List Call → Call → Bool)

theorem ran_fetch (before : Observed Store) (documents : List Document) (path : Path)
    (target : String) (projection : Option Projection) :
    ∃ calls,
      Ran refuses before calls
        ((fetch (Store.observed refuses) documents path target projection).on before) ∧
      (calls = [] ∨ ∃ call, calls = [call] ∧ call.Fetches target projection) := by
  rw [fetch]
  split
  · exact ⟨[], ran_pure _, .inl rfl⟩
  · rename_i found
    let ids := distinct (documents.flatMap (·.referencesAt path))
    let call : Call := .get target ids projection
    have ran : Ran refuses before [call]
        (((Store.observed refuses).get ids target projection).on before) := ran_call call rfl
    exact ⟨[call], ran.map _, .inr ⟨call, rfl, ids, rfl, by simpa using found, nodup_distinct _⟩⟩

theorem ran_expand (before : Observed Store) (documents : List Document) (path : Path)
    (target : String) (projection : Option Projection) (locale : Option String) :
    ∃ calls,
      Ran refuses before calls
        ((expand (Store.observed refuses) documents path target projection locale).on before) ∧
      (calls = [] ∨ ∃ call, calls = [call] ∧ call.Fetches target projection) := by
  obtain ⟨calls, ran, once⟩ := ran_fetch refuses before documents path target projection
  exact ⟨calls, ran.map _, once⟩

/-- Shallow expansion makes one call at most for each directive, in their order. -/
theorem ran_expandAll (directives : List Directive) (documents : List Document)
    (before : Observed Store) :
    ∃ calls,
      Ran refuses before calls
        ((expandAll (Store.observed refuses) documents directives).on before) ∧
      List.SublistForall₂ Call.FetchesFor calls directives := by
  induction directives generalizing documents before with
  | nil => exact ⟨[], ran_pure _, .nil⟩
  | cons directive rest ih =>
    rw [expandAll]
    cases known : directive.target with
    | none =>
      obtain ⟨calls, ran, served⟩ := ih documents before
      exact ⟨calls, ran, .cons_right served⟩
    | some target =>
      obtain ⟨calls, ran, once⟩ :=
        ran_expand refuses before documents (Path.ofText directive.path) target
          directive.projection none
      have once : calls = [] ∨ ∃ call, calls = [call] ∧ call.FetchesFor directive :=
        once.imp id (Exists.imp fun call called => ⟨called.1, target, known, called.2⟩)
      rcases step : (expand (Store.observed refuses) documents (Path.ofText directive.path) target
        directive.projection none).on before with ⟨error | ⟨count, expanded⟩, between⟩
      · refine ⟨calls, ran.stop step, ?_⟩
        simpa using sublist_calls_cons once .nil
      · obtain ⟨more, ran', served⟩ := ih expanded between
        exact ⟨calls ++ more, ran.bind step ran', sublist_calls_cons once served⟩

theorem ran_expandPath (registry : Registry) (root : Schema) (locale : String)
    (set : DocumentSet) (path : String) (before : Observed Store) :
    ∃ calls,
      Ran refuses before calls
        ((expandPath (Store.observed refuses) registry root locale set (Path.ofText path)).on
          before) ∧
      (calls = [] ∨ ∃ call, calls = [call] ∧ call.FetchesAt registry root path) := by
  rw [expandPath]
  split
  · cases refers : deepTarget? registry root (Path.ofText path) with
    | none => exact ⟨[], ran_pure _, .inl rfl⟩
    | some target =>
      obtain ⟨calls, ran, once⟩ := ran_fetch refuses before set.toList (Path.ofText path) target
        (deepSelection registry target)
      refine ⟨calls, ran.map _, once.imp id (Exists.imp fun call called => ?_)⟩
      exact ⟨called.1, target, refers, called.2⟩
  · exact ⟨[], ran_pure _, .inl rfl⟩

/-- Deep expansion makes one call at most for each path, in their order. -/
theorem ran_expandPaths (registry : Registry) (root : Schema) (locale : String)
    (paths : List String) (set : DocumentSet) (before : Observed Store) :
    ∃ calls,
      Ran refuses before calls
        (((expandPaths (Store.observed refuses) registry root locale paths set).run before).map
          DeepRun.result id) ∧
      List.SublistForall₂ (Call.FetchesAt registry root) calls paths := by
  induction paths generalizing set before with
  | nil => exact ⟨[], ⟨rfl, .nil⟩, .nil⟩
  | cons path rest ih =>
    obtain ⟨calls, ran, once⟩ := ran_expandPath refuses registry root locale set path before
    rcases step : (expandPath (Store.observed refuses) registry root locale set
      (Path.ofText path)).on before with ⟨error | expanded, between⟩
    · rw [run_expandPaths_of_error rest step]
      rw [step] at ran
      refine ⟨calls, ⟨ran.noted, ran.traced⟩, ?_⟩
      simpa using sublist_calls_cons once .nil
    · rw [run_expandPaths_of_ok rest step]
      rw [step] at ran
      obtain ⟨more, ran', served⟩ := ih expanded between
      exact ⟨calls ++ more, ran.trans ran', sublist_calls_cons once served⟩

end Expansion

theorem length_of_expandAll {σ : Type} {backend : Backend σ} {directives : List Directive}
    {documents expanded : List Document} {state after : σ}
    (run : (expandAll backend documents directives).on state = (.ok expanded, after)) :
    expanded.length = documents.length := by
  induction directives generalizing documents state with
  | nil =>
    cases run
    rfl
  | cons directive rest ih =>
    rw [expandAll] at run
    split at run
    · exact ih run
    · obtain ⟨⟨count, next⟩, _, step, run⟩ := Action.on_bind_ok.1 run
      obtain ⟨referents, rfl⟩ := expand_ok step
      rw [ih run, List.length_map]

theorem map_of_expandPaths {σ : Type} (backend : Backend σ) (registry : Registry) (root : Schema)
    (locale : String) (paths : List String) (set : DocumentSet) (state : σ) :
    ∃ change, ((expandPaths backend registry root locale paths set).run state).1.documents =
      set.map change := by
  induction paths generalizing set state with
  | nil => exact ⟨id, set.map_id.symm⟩
  | cons path rest ih =>
    rcases step : (expandPath backend registry root locale set (Path.ofText path)).on state with
      ⟨error | expanded, between⟩
    · rw [run_expandPaths_of_error rest step]
      exact ⟨id, set.map_id.symm⟩
    · rw [run_expandPaths_of_ok rest step]
      obtain ⟨change, same⟩ := ih expanded between
      rcases expandPath_ok step with rfl | ⟨referents, rfl⟩
      · exact ⟨change, same⟩
      · exact ⟨_, same.trans (set.map_map _ change)⟩

end Population

end DocumentQuery
