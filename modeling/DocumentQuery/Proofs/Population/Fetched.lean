import DocumentQuery.Population.Deep
import DocumentQuery.Proofs.Action
import DocumentQuery.Proofs.Store.Contents

/-! Fetched referents. On the store in memory a fetch never fails and changes nothing:
it gives the stored documents of the identifiers found, each under the identifier that
its selected part still carries.
-/

set_option autoImplicit false

namespace DocumentQuery

namespace SortedMap

variable {κ α : Type} [Ord κ] [Std.TransOrd κ] [Std.LawfulEqOrd κ]

theorem get?_foldl_insert [DecidableEq κ] {pairs : List (κ × α)} {map : SortedMap κ α} {key : κ}
    {value : α}
    (found : (pairs.foldl (fun map pair => map.insert pair.1 pair.2) map).get? key = some value) :
    map.get? key = some value ∨ (key, value) ∈ pairs := by
  induction pairs generalizing map with
  | nil => exact .inl found
  | cons pair rest ih =>
    rcases ih found with earlier | later
    · rw [get?_insert] at earlier
      split at earlier
      · rename_i same
        cases earlier
        exact .inr (by simp [← same])
      · exact .inl earlier
    · exact .inr (List.mem_cons_of_mem _ later)

theorem mem_of_get?_ofPairs [DecidableEq κ] {pairs : List (κ × α)} {key : κ} {value : α}
    (found : (ofPairs pairs).get? key = some value) : (key, value) ∈ pairs := by
  rcases get?_foldl_insert found with earlier | there
  · simp at earlier
  · exact there

theorem exists_get?_foldl_insert [DecidableEq κ] (pairs : List (κ × α)) {map : SortedMap κ α}
    {key : κ} (found : ∃ value, map.get? key = some value) :
    ∃ value, (pairs.foldl (fun map pair => map.insert pair.1 pair.2) map).get? key =
      some value := by
  induction pairs generalizing map with
  | nil => exact found
  | cons pair rest ih =>
    apply ih
    rw [get?_insert]
    split
    · exact ⟨_, rfl⟩
    · exact found

theorem exists_get?_ofPairs [DecidableEq κ] {pairs : List (κ × α)} {key : κ} {value : α}
    (there : (key, value) ∈ pairs) : ∃ last, (ofPairs pairs).get? key = some last := by
  obtain ⟨front, back, rfl⟩ := List.append_of_mem there
  rw [ofPairs, List.foldl_append]
  exact exists_get?_foldl_insert back ⟨value, get?_insert_self _ key value⟩

end SortedMap

namespace Store

theorem mem_get {store : Store} {collection : String} {ids : List ObjectId}
    {projection : Option Projection} {document : Document} :
    document ∈ store.get collection ids projection ↔
      ∃ id ∈ ids, ∃ stored, (store.shelf collection).get? id = some stored ∧
        Projection.applyTo projection stored = document := by
  simp only [get, List.mem_map, List.mem_filterMap]
  constructor
  · rintro ⟨stored, ⟨id, asked, found⟩, same⟩
    exact ⟨id, asked, stored, found, same⟩
  · rintro ⟨id, asked, stored, found, same⟩
    exact ⟨stored, ⟨id, asked, found⟩, same⟩

end Store

namespace DocumentSet

theorem map_id (set : DocumentSet) : set.map id = set := by
  cases set with
  | one document => rfl
  | many documents => exact congrArg many (List.map_id documents)

theorem map_map (first second : Document → Document) (set : DocumentSet) :
    (set.map first).map second = set.map (second ∘ first) := by
  cases set with
  | one document => rfl
  | many documents => exact congrArg many List.map_map

end DocumentSet

namespace Population

theorem mem_foldl_distinct {id : ObjectId} (seen ids : List ObjectId) :
    id ∈ ids.foldl (fun seen id => if id ∈ seen then seen else seen ++ [id]) seen ↔
      id ∈ seen ∨ id ∈ ids := by
  induction ids generalizing seen with
  | nil => simp
  | cons first rest ih =>
    rw [List.foldl_cons, ih, List.mem_cons]
    split
    · rename_i again
      constructor
      · rintro (there | there)
        · exact .inl there
        · exact .inr (.inr there)
      · rintro (there | rfl | there)
        · exact .inl there
        · exact .inl again
        · exact .inr there
    · simp [or_assoc]

theorem mem_distinct {ids : List ObjectId} {id : ObjectId} : id ∈ distinct ids ↔ id ∈ ids := by
  rw [distinct, mem_foldl_distinct]
  simp

theorem get?_referentsOf {documents : List Document} {id : ObjectId} {referent : Document}
    (found : (referentsOf documents).get? id = some referent) :
    referent ∈ documents ∧ referent.id? = some id := by
  obtain ⟨document, there, same⟩ := List.mem_filterMap.1 (SortedMap.mem_of_get?_ofPairs found)
  obtain ⟨own, named, same⟩ := Option.map_eq_some_iff.1 same
  cases same
  exact ⟨there, named⟩

theorem exists_get?_referentsOf {documents : List Document} {document : Document} {id : ObjectId}
    (there : document ∈ documents) (named : document.id? = some id) :
    ∃ referent, (referentsOf documents).get? id = some referent := by
  have paired :
      (id, document) ∈ documents.filterMap fun document => document.id?.map (·, document) :=
    List.mem_filterMap.2 ⟨document, there, by rw [named, Option.map_some]⟩
  exact SortedMap.exists_get?_ofPairs paired

def gathered (documents : List Document) (path : Path) : List ObjectId :=
  distinct (documents.flatMap (·.referencesAt path))

theorem mem_gathered {documents : List Document} {path : Path} {id : ObjectId} :
    id ∈ gathered documents path ↔ ∃ document ∈ documents, id ∈ document.referencesAt path := by
  rw [gathered, mem_distinct, List.mem_flatMap]

/-- What a backend is asked for, to populate some documents: those of the identifiers found at the
path, and nothing where there are none. -/
def request {σ : Type} (backend : Backend σ) (documents : List Document) (path : Path)
    (target : String) (projection : Option Projection) : Action σ (List Document) :=
  if (gathered documents path).isEmpty then pure []
  else backend.get (gathered documents path) target projection

theorem fetch_eq_request {σ : Type} (backend : Backend σ) (documents : List Document) (path : Path)
    (target : String) (projection : Option Projection) :
    fetch backend documents path target projection =
      (do return referentsOf (← request backend documents path target projection)) := by
  rw [fetch, request, gathered]
  split <;> rfl

def referentsIn (store : Store) (documents : List Document) (path : Path) (target : String)
    (projection : Option Projection) : Referents :=
  referentsOf (store.get target (gathered documents path) projection)

theorem fetch_on (store : Store) (documents : List Document) (path : Path) (target : String)
    (projection : Option Projection) :
    (fetch Store.backend documents path target projection).on store =
      (.ok (referentsIn store documents path target projection), store) := by
  rw [fetch, referentsIn, gathered]
  split
  · rename_i empty
    rw [List.isEmpty_iff.1 empty]
    rfl
  · rfl

theorem expand_on (store : Store) (documents : List Document) (path : Path) (target : String)
    (projection : Option Projection) (locale : Option String) :
    (expand Store.backend documents path target projection locale).on store =
      (.ok ((referentsIn store documents path target projection).size,
        documents.map (·.resolveAt (referentsIn store documents path target projection).get?
          locale path)), store) := by
  rw [expand, Action.on_bind, fetch_on]
  rfl

theorem expandAll_on (store : Store) (documents : List Document) (directives : List Directive) :
    ∃ change : Document → Document,
      (expandAll Store.backend documents directives).on store =
        (.ok (documents.map change), store) := by
  induction directives generalizing documents with
  | nil => exact ⟨id, by rw [List.map_id]; rfl⟩
  | cons directive rest ih =>
    rw [expandAll]
    cases directive.target with
    | none => exact ih documents
    | some target =>
      simp only [Action.on_bind, expand_on]
      obtain ⟨change, run⟩ := ih _
      exact ⟨_, by rw [run, List.map_map]⟩

section Shallow

variable {σ : Type} {backend : Backend σ} {documents : List Document} {path : Path}
  {target : String} {projection : Option Projection} {state after : σ}

theorem run_shallow_of_ok {referents : Referents} (locale : Option String)
    (fetched : (fetch backend documents path target projection).on state =
      (.ok referents, after)) :
    (shallow backend documents path target projection locale).run state =
      ({ documents := documents.map (·.resolveAt referents.get? locale path),
         outcome := .ok referents.size }, after) := by
  have ran : (fetch backend documents path target projection).run.run state =
      pure (.ok referents, after) := fetched
  simp only [shallow, expand, ExceptT.run_bind, StateT.run_bind, ran, pure_bind]
  rfl

theorem run_shallow_of_error {error : AccessError} (locale : Option String)
    (failed : (fetch backend documents path target projection).on state =
      (.error error, after)) :
    (shallow backend documents path target projection locale).run state =
      ({ documents, outcome := .error error }, after) := by
  have ran : (fetch backend documents path target projection).run.run state =
      pure (.error error, after) := failed
  simp only [shallow, expand, ExceptT.run_bind, StateT.run_bind, ran, pure_bind]
  rfl

end Shallow

def DeepRun.result (run : DeepRun) : Except AccessError DocumentSet :=
  match run.failure with
  | some error => .error error
  | none => .ok run.documents

theorem DeepRun.failure_of_error {run : DeepRun} {error : AccessError}
    (ended : run.result = .error error) : run.failure = some error := by
  rw [result] at ended
  split at ended
  · cases ended
    assumption
  · cases ended

theorem DeepRun.documents_of_ok {run : DeepRun} {set : DocumentSet} (came : run.result = .ok set) :
    run.documents = set := by
  rw [result] at came
  split at came
  · cases came
  · cases came
    rfl

section Deep

variable {σ : Type} {backend : Backend σ} {registry : Registry} {root : Schema}
  {locale path : String} {set expanded : DocumentSet} {state after : σ}

theorem run_expandPaths_of_ok (rest : List String)
    (step : (expandPath backend registry root locale set (Path.ofText path)).on state =
      (.ok expanded, after)) :
    (expandPaths backend registry root locale (path :: rest) set).run state =
      (expandPaths backend registry root locale rest expanded).run after := by
  have ran : (expandPath backend registry root locale set (Path.ofText path)).run.run state =
      pure (.ok expanded, after) := step
  simp only [expandPaths, StateT.run_bind, ran, pure_bind]

/-- A path that fails ends deep expansion, which keeps the documents it had. -/
theorem run_expandPaths_of_error (rest : List String) {error : AccessError}
    (step : (expandPath backend registry root locale set (Path.ofText path)).on state =
      (.error error, after)) :
    (expandPaths backend registry root locale (path :: rest) set).run state =
      ({ documents := set, failure := some error }, after) := by
  have ran : (expandPath backend registry root locale set (Path.ofText path)).run.run state =
      pure (.error error, after) := step
  simp only [expandPaths, StateT.run_bind, ran, pure_bind]
  rfl

end Deep

theorem expandPath_on (store : Store) (registry : Registry) (root : Schema) (locale : String)
    (documents : List Document) (path : Path) :
    ∃ change : Document → Document, ∀ set : DocumentSet, set.toList = documents →
      (expandPath Store.backend registry root locale set path).on store =
        (.ok (set.map change), store) := by
  by_cases reaches : (documents.any fun document =>
      ! (document.documentsAt path.dropLast).isEmpty) = true
  · cases refers : deepTarget? registry root path with
    | none =>
      refine ⟨id, fun set listed => ?_⟩
      rw [expandPath, hasCandidates, listed, if_pos reaches, refers, DocumentSet.map_id]
      rfl
    | some target =>
      let referents :=
        referentsIn store documents path target (deepSelection registry target)
      refine ⟨(·.resolveAt referents.get? (some locale) path), fun set listed => ?_⟩
      rw [expandPath, hasCandidates, listed, if_pos reaches, refers]
      simp only [Action.on_bind, fetch_on]
      rfl
  · refine ⟨id, fun set listed => ?_⟩
    rw [expandPath, hasCandidates, listed, if_neg reaches, DocumentSet.map_id]
    rfl

theorem expandPaths_on (store : Store) (registry : Registry) (root : Schema) (locale : String)
    (paths : List String) (documents : List Document) :
    ∃ change : Document → Document, ∀ set : DocumentSet, set.toList = documents →
      (expandPaths Store.backend registry root locale paths set).run store =
        ({ documents := set.map change }, store) := by
  induction paths generalizing documents with
  | nil =>
    refine ⟨id, fun set _ => ?_⟩
    rw [DocumentSet.map_id]
    rfl
  | cons path rest ih =>
    obtain ⟨first, step⟩ :=
      expandPath_on store registry root locale documents (Path.ofText path)
    obtain ⟨later, run⟩ := ih (documents.map first)
    refine ⟨later ∘ first, fun set listed => ?_⟩
    rw [run_expandPaths_of_ok rest (step set listed),
      run (set.map first) (by rw [DocumentSet.toList_map, listed]), DocumentSet.map_map]

theorem mem_referentsIn {store : Store} {documents : List Document} {path : Path}
    {target : String} {projection : Option Projection} {id : ObjectId} {referent : Document}
    (found : (referentsIn store documents path target projection).get? id = some referent) :
    ∃ stored ∈ (store.shelf target).values, Projection.applyTo projection stored = referent := by
  obtain ⟨there, _⟩ := get?_referentsOf found
  obtain ⟨_, _, stored, under, same⟩ := Store.mem_get.1 there
  exact ⟨stored, SortedMap.mem_values_of_get? under, same⟩

end Population

end DocumentQuery
