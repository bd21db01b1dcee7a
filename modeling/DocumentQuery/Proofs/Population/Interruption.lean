import DocumentQuery.Proofs.Population.Independence
import DocumentQuery.Proofs.Schema.Registered

/-! Interrupted expansion. A deep expansion fails at the first path whose referents cannot be
fetched. The paths before it have done all that they do by themselves, the path and those after it
nothing, and the fetch that failed is the last call. Apart from that it fails only for documents of
a collection that is not registered, and then before the first path.
-/

set_option autoImplicit false

namespace DocumentQuery

theorem Observed.calls_on_call {σ α : Type} (refuses : List Call → Call → Bool) (call : Call)
    (action : Action σ α) (state : Observed σ) :
    ((Observed.call refuses call action).on state).2.calls = call :: state.calls := by
  rw [on_call]
  split <;> rfl

namespace Population

section Steps

variable {σ : Type} {backend : Backend σ} {registry : Registry} {root : Schema} {locale : String}
  {state after : σ} {error : AccessError}

theorem get_of_fetch_error {documents : List Document} {path : Path} {target : String}
    {projection : Option Projection}
    (failed : (fetch backend documents path target projection).on state = (.error error, after)) :
    (backend.get (gathered documents path) target projection).on state = (.error error, after) := by
  rw [fetch_eq_request] at failed
  rcases Action.on_bind_error.1 failed with asked | ⟨_, _, _, given⟩
  · rw [request] at asked
    split at asked
    · cases asked
    · exact asked
  · cases given

theorem get_of_expandPath_error {set : DocumentSet} {path : Path}
    (failed : (expandPath backend registry root locale set path).on state =
      (.error error, after)) :
    ∃ target, deepTarget? registry root path = some target ∧
      (backend.get (gathered set.toList path) target (deepSelection registry target)).on state =
        (.error error, after) := by
  rw [expandPath] at failed
  split at failed
  · split at failed
    · cases failed
    · rename_i target leads
      rcases Action.on_bind_error.1 failed with fetched | ⟨_, _, _, given⟩
      · exact ⟨target, leads, get_of_fetch_error fetched⟩
      · cases given
  · cases failed

/-- A run over some paths that fails has expanded the paths before one that fails. -/
theorem exists_of_expandPaths_failure {paths : List String} {set : DocumentSet} {run : DeepRun}
    (ran : (expandPaths backend registry root locale paths set).run state = (run, after))
    (failed : run.failure = some error) :
    ∃ front path back between, paths = front ++ path :: back ∧
      (expandPaths backend registry root locale front set).run state =
        ({ documents := run.documents }, between) ∧
      (expandPath backend registry root locale run.documents (Path.ofText path)).on between =
        (.error error, after) := by
  -- A path that succeeds, or is passed over, goes to the front of those before the failing one.
  induction paths generalizing set state with
  | nil =>
    cases ran
    cases failed
  | cons path rest ih =>
    rcases step : (expandPath backend registry root locale set (Path.ofText path)).on state with
      ⟨_ | expanded, between⟩
    · rw [run_expandPaths_of_error rest step] at ran
      cases ran
      cases failed
      exact ⟨[], path, rest, state, rfl, rfl, step⟩
    · rw [run_expandPaths_of_ok rest step] at ran
      obtain ⟨front, broken, back, last, rfl, ran', step'⟩ := ih ran
      exact ⟨path :: front, broken, back, last, rfl,
        (run_expandPaths_of_ok front step).trans ran', step'⟩

theorem run_deep_of_registered {collection : String} {set : DocumentSet}
    (filled : set.isEmpty = false) (known : registry.get? collection = some root)
    (paths : List String) (state : σ) :
    (deep backend registry collection locale paths set).run state =
      (expandPaths backend registry root locale paths set).run state := by
  rw [deep, if_neg (Bool.eq_false_iff.1 filled), Registry.schema_ok.2 known]

end Steps

/-- A deep expansion that fails keeps exactly what the paths before the failing one do. The run over
these alone succeeds, with the same documents and the same calls but for the last; this is the fetch
for the failing path, and its error is that of the run. Without a schema for the collection, there
is no call and no change, and documents to be expanded are an error. -/
theorem deep_interrupted {σ : Type} (inner : Backend σ) (refuses : List Call → Call → Bool)
    (registry : Registry) (collection locale : String) (paths : List String) (set : DocumentSet)
    (before : Observed σ) :
    (registry.get? collection = none → set.isEmpty = false →
      (deep (Observed.backend inner refuses) registry collection locale paths set).run before =
        ({ documents := set, failure := some (.collectionNotFound collection) }, before)) ∧
    ∀ run after error,
      (deep (Observed.backend inner refuses) registry collection locale paths set).run before =
        (run, after) →
      run.failure = some error →
      (registry.get? collection = none ∧ set.isEmpty = false) ∨
      ∃ front path back root target between,
        paths = front ++ path :: back ∧ registry.get? collection = some root ∧
        (deep (Observed.backend inner refuses) registry collection locale front set).run before =
          ({ documents := run.documents }, between) ∧
        deepTarget? registry root (Path.ofText path) = some target ∧
        ((Observed.backend inner refuses).get (gathered run.documents.toList (Path.ofText path))
          target (deepSelection registry target)).on between = (.error error, after) ∧
        after.calls = .get target (gathered run.documents.toList (Path.ofText path))
          (deepSelection registry target) :: between.calls := by
  constructor
  · intro unknown filled
    rw [deep, if_neg (Bool.eq_false_iff.1 filled), Registry.schema, unknown]
    rfl
  · intro run after error ran failed
    cases empty : set.isEmpty with
    | true =>
      rw [deep, if_pos empty] at ran
      cases ran
      cases failed
    | false =>
      cases known : registry.get? collection with
      | none => exact .inl ⟨rfl, rfl⟩
      | some root =>
        rw [run_deep_of_registered empty known] at ran
        obtain ⟨front, path, back, between, split, kept, broken⟩ :=
          exists_of_expandPaths_failure ran failed
        obtain ⟨target, leads, fetched⟩ := get_of_expandPath_error broken
        have noted := Observed.calls_on_call refuses
          (.get target (gathered run.documents.toList (Path.ofText path))
            (deepSelection registry target))
          (inner.get (gathered run.documents.toList (Path.ofText path)) target
            (deepSelection registry target)) between
        have last := congrArg (·.2.calls) fetched
        exact .inr ⟨front, path, back, root, target, between, split, rfl,
          (run_deep_of_registered empty known front before).trans kept, leads, fetched,
          last.symm.trans noted⟩

def secondRefused (made : List Call) (_ : Call) : Bool :=
  made.length == 1

/-- The authors of the comments are in place when their editors cannot be fetched; readers are not
registered at all. -/
theorem deep_interrupted_comments :
    commented.get? "reader" = none ∧ (DocumentSet.many [post]).isEmpty = false ∧
    (deep (Observed.backend Store.backend secondRefused) commented "reader" "en"
        ["comments.author"] (.many [post])).run ⟨authors, []⟩ =
      (({ documents := .many [post], failure := some (.collectionNotFound "reader") },
        ⟨authors, []⟩) : DeepRun × Observed Store) ∧
    ∃ run after,
      (deep (Observed.backend Store.backend secondRefused) commented "post" "en"
        ["comments.author", "comments.editor"] (.many [post])).run ⟨authors, []⟩ = (run, after) ∧
      run.failure = some (.backend "user is unavailable") ∧
      ∃ front path back root target between,
        ["comments.author", "comments.editor"] = front ++ path :: back ∧
        commented.get? "post" = some root ∧
        (deep (Observed.backend Store.backend secondRefused) commented "post" "en" front
          (.many [post])).run ⟨authors, []⟩ = ({ documents := run.documents }, between) ∧
        deepTarget? commented root (Path.ofText path) = some target ∧
        ((Observed.backend Store.backend secondRefused).get
          (gathered run.documents.toList (Path.ofText path)) target
          (deepSelection commented target)).on between =
            (.error (.backend "user is unavailable"), after) ∧
        after.calls = .get target (gathered run.documents.toList (Path.ofText path))
          (deepSelection commented target) :: between.calls := by
  have unknown : commented.get? "reader" = none := by rfl
  have filled : (DocumentSet.many [post]).isEmpty = false := by rfl
  have known : commented.get? "post" ≠ none := Option.some_ne_none _
  refine ⟨unknown, filled, (deep_interrupted Store.backend secondRefused commented "reader" "en"
    ["comments.author"] (.many [post]) ⟨authors, []⟩).1 unknown filled, ?_⟩
  have failed : ((deep (Observed.backend Store.backend secondRefused) commented "post" "en"
      ["comments.author", "comments.editor"] (.many [post])).run ⟨authors, []⟩).1.failure =
        some (.backend "user is unavailable") := by
    rfl
  refine ⟨_, _, rfl, failed, ?_⟩
  rcases (deep_interrupted Store.backend secondRefused commented "post" "en"
    ["comments.author", "comments.editor"] (.many [post]) ⟨authors, []⟩).2 _ _ _ rfl failed with
    ⟨missing, -⟩ | kept
  · exact absurd missing known
  · exact kept

end Population

end DocumentQuery
