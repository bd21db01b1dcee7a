import DocumentQuery.Proofs.Document.Modification
import DocumentQuery.Proofs.Population.Fetched
import DocumentQuery.Proofs.Population.Meaning
import DocumentQuery.Proofs.Projection.Identifier

/-! Independent paths. A change at the end of a path is not seen by a path that does not go
through that end: it reaches as many documents as before and gathers the same
identifiers. So two deep paths, neither of which leads into what the other inserts, can
be expanded in either order.
-/

set_option autoImplicit false

namespace DocumentQuery

namespace Value

theorem references_mapDocuments (change : Document → Document) (value : Value) :
    (value.mapDocuments change).references = value.references := by
  cases value with
  | array items =>
    simp only [mapDocuments, references, List.filterMap_map]
    congr 1
    funext item
    cases item <;> rfl
  | _ => rfl

end Value

namespace Document

theorem modifyAt_id (path : Path) (document : Document) : document.modifyAt id path = document := by
  induction path generalizing document with
  | nil => rfl
  | cons key rest ih =>
    cases rest with
    | nil => exact modify_id key document
    | cons next rest =>
      have same : modifyAt id (next :: rest) = id := funext ih
      rw [modifyAt_cons_cons, same]
      exact (modify_eq_iff.2 fun value _ => value.mapDocuments_id).trans (modify_id key document)

theorem modifyAt_cons (change : Value → Value) (key : String) (rest : Path) :
    ∃ step, ∀ document, modifyAt change (key :: rest) document = document.modify key step := by
  cases rest with
  | nil => exact ⟨change, fun _ => rfl⟩
  | cons next rest => exact ⟨_, modifyAt_cons_cons change key next rest⟩

/-- Changes at two paths commute, unless one path goes through the end of the other. -/
theorem modifyAt_comm {path other : Path} (apart : ¬ path <+: other) (apart' : ¬ other <+: path)
    (first second : Value → Value) (document : Document) :
    (document.modifyAt first path).modifyAt second other =
      (document.modifyAt second other).modifyAt first path := by
  induction path generalizing other document with
  | nil => exact absurd List.nil_prefix apart
  | cons key rest ih =>
    cases other with
    | nil => exact absurd List.nil_prefix apart'
    | cons key' rest' =>
      by_cases same : key = key'
      · subst same
        simp only [List.cons_prefix_cons, true_and] at apart apart'
        cases rest with
        | nil => exact absurd List.nil_prefix apart
        | cons next rest =>
          cases rest' with
          | nil => exact absurd List.nil_prefix apart'
          | cons next' rest' =>
            simp only [modifyAt_cons_cons, modify_modify]
            refine modify_eq_iff.2 fun value _ => ?_
            simp only [Function.comp, Value.mapDocuments_mapDocuments]
            exact Value.mapDocuments_eq_iff.2 fun inner _ => ih apart apart' inner
      · obtain ⟨step, changes⟩ := modifyAt_cons first key rest
        obtain ⟨step', changes'⟩ := modifyAt_cons second key' rest'
        simp only [changes, changes', modify_comm same]

/-- What a path reaches after a change whose end it does not go through: the same documents, which
are changed where the path leads towards that end. -/
theorem documentsAt_modifyAt {path other : Path} (apart : ¬ path <+: other)
    (change : Value → Value) :
    ∃ seen : Document → Document,
      (∀ document : Document, (document.modifyAt change path).documentsAt other =
        (document.documentsAt other).map seen) ∧
      (seen = id ∨ ∃ rest, path = other ++ rest ∧ seen = modifyAt change rest) := by
  induction other generalizing path with
  | nil => exact ⟨modifyAt change path, fun _ => rfl, .inr ⟨path, rfl, rfl⟩⟩
  | cons key' rest' ih =>
    cases path with
    | nil => exact absurd List.nil_prefix apart
    | cons key rest =>
      by_cases same : key = key'
      · subst same
        simp only [List.cons_prefix_cons, true_and] at apart
        obtain ⟨seen, reached, shape⟩ := ih apart
        refine ⟨seen, fun document => ?_, shape.imp_right fun ⟨more, ends, same⟩ =>
          ⟨more, congrArg (key :: ·) ends, same⟩⟩
        cases rest with
        | nil => exact absurd List.nil_prefix apart
        | cons next rest =>
          rw [modifyAt_cons_cons, documentsAt, documentsAt, get?_modify, if_pos rfl]
          cases document.get? key with
          | none => rfl
          | some value =>
            simp only [Option.map_some, Value.documents_mapDocuments, List.flatMap_map,
              List.map_flatMap, reached]
      · obtain ⟨step, changes⟩ := modifyAt_cons change key rest
        refine ⟨id, fun document => ?_, .inl rfl⟩
        rw [changes, documentsAt, documentsAt, get?_modify, if_neg same, List.map_id]

theorem isEmpty_documentsAt_modifyAt {path other : Path} (apart : ¬ path <+: other)
    (change : Value → Value) (document : Document) :
    ((document.modifyAt change path).documentsAt other).isEmpty =
      (document.documentsAt other).isEmpty := by
  obtain ⟨seen, reached, _⟩ := documentsAt_modifyAt apart change
  rw [reached, List.isEmpty_map]

theorem references_modifyAt {path : Path} {key : String} (apart : ¬ path <+: [key])
    (change : Value → Value) (document : Document) :
    (((document.modifyAt change path).get? key).map (·.references)).getD [] =
      ((document.get? key).map (·.references)).getD [] := by
  match path with
  | [] => exact absurd List.nil_prefix apart
  | [other] =>
    have elsewhere : other ≠ key := fun same => apart (same ▸ List.prefix_rfl)
    rw [modifyAt, get?_modify, if_neg elsewhere]
  | other :: next :: rest =>
    rw [modifyAt_cons_cons, get?_modify]
    split
    · rw [Option.map_map]
      exact congrArg (fun read => ((document.get? key).map read).getD [])
        (funext fun value => value.references_mapDocuments _)
    · rfl

/-- A path gathers the same identifiers as before a change whose end it does not go through. -/
theorem referencesAt_modifyAt {path other : Path} (apart : ¬ path <+: other)
    (change : Value → Value) (document : Document) :
    (document.modifyAt change path).referencesAt other = document.referencesAt other := by
  rcases List.eq_nil_or_concat other with rfl | ⟨front, key, rfl⟩
  · rfl
  · rw [List.concat_eq_append] at apart ⊢
    have front_apart : ¬ path <+: front := fun through =>
      apart (through.trans (List.prefix_append front [key]))
    obtain ⟨seen, reached, shape⟩ := documentsAt_modifyAt front_apart change
    rw [referencesAt_append, referencesAt_append, reached, List.flatMap_map]
    rcases shape with rfl | ⟨rest, rfl, rfl⟩
    · rfl
    · rw [List.prefix_append_right_inj] at apart
      exact congrArg ((document.documentsAt front).flatMap ·)
        (funext (references_modifyAt apart change))

end Document

namespace Population

variable (store : Store) (registry : Registry) (root : Schema) (locale : String)

def noted : Backend (Observed Store) :=
  Observed.backend Store.backend fun _ _ => false

def replacement (set : DocumentSet) (path : Path) : Value → Value :=
  if hasCandidates set path then
    match deepTarget? registry root path with
    | none => id
    | some target => (·.mapIdentifiers (Value.resolved (referentsIn store set.toList path target
        (deepSelection registry target)).get? (some locale)))
  else id

def callsOf (documents : List Document) (path : Path) (target : String)
    (projection : Option Projection) : List Call :=
  if (gathered documents path).isEmpty then []
  else [.get target (gathered documents path) projection]

def callsFor (set : DocumentSet) (path : Path) : List Call :=
  if hasCandidates set path then
    match deepTarget? registry root path with
    | none => []
    | some target => callsOf set.toList path target (deepSelection registry target)
  else []

def expandedAt (set : DocumentSet) (path : Path) : DocumentSet :=
  set.map (·.modifyAt (replacement store registry root locale set path) path)

variable {store registry root locale}

theorem fetch_noted (documents : List Document) (path : Path) (target : String)
    (projection : Option Projection) (calls : List Call) :
    (fetch noted documents path target projection).on ⟨store, calls⟩ =
      (.ok (referentsIn store documents path target projection),
        ⟨store, callsOf documents path target projection ++ calls⟩) := by
  rw [fetch, referentsIn, callsOf, gathered]
  split
  · rename_i empty
    rw [List.isEmpty_iff.1 empty]
    rfl
  · rfl

theorem expand_noted (documents : List Document) (path : Path) (target : String)
    (projection : Option Projection) (locale : Option String) (calls : List Call) :
    ∃ count, (expand noted documents path target projection locale).on ⟨store, calls⟩ =
      (.ok (count, documents.map (·.resolveAt
          (referentsIn store documents path target projection).get? locale path)),
        ⟨store, callsOf documents path target projection ++ calls⟩) := by
  refine ⟨(referentsIn store documents path target projection).size, ?_⟩
  rw [expand, Action.on_bind, fetch_noted]
  rfl

theorem map_modifyAt_id (set : DocumentSet) (path : Path) :
    set.map (·.modifyAt id path) = set := by
  cases set with
  | one document => exact congrArg DocumentSet.one (document.modifyAt_id path)
  | many documents =>
    refine congrArg DocumentSet.many ((List.map_congr_left fun document _ => ?_).trans
      (List.map_id documents))
    exact document.modifyAt_id path

/-- Expanding a path changes the documents at its end and notes the call it makes. -/
theorem expandPath_noted (set : DocumentSet) (path : Path) (calls : List Call) :
    (expandPath noted registry root locale set path).on ⟨store, calls⟩ =
      (.ok (expandedAt store registry root locale set path),
        ⟨store, callsFor registry root set path ++ calls⟩) := by
  rw [expandPath, expandedAt, replacement, callsFor]
  split
  · cases deepTarget? registry root path with
    | none => simp only [map_modifyAt_id, List.nil_append, Action.on_pure]
    | some target =>
      simp only [Action.on_bind, fetch_noted, Action.on_pure, Document.resolveAt_eq_modifyAt]
  · simp only [map_modifyAt_id, List.nil_append, Action.on_pure]

section Independent

variable {path other : Path}

theorem hasCandidates_map (apart : ¬ path <+: other) (change : Value → Value)
    (set : DocumentSet) :
    hasCandidates (set.map (·.modifyAt change path)) other = hasCandidates set other := by
  have front_apart : ¬ path <+: other.dropLast := fun through =>
    apart (through.trans (List.dropLast_prefix other))
  rw [hasCandidates, hasCandidates, DocumentSet.toList_map, List.any_map]
  congr 1
  funext document
  exact congrArg (! ·) (Document.isEmpty_documentsAt_modifyAt front_apart change document)

theorem gathered_map (apart : ¬ path <+: other) (change : Value → Value) (set : DocumentSet) :
    gathered (set.map (·.modifyAt change path)).toList other = gathered set.toList other := by
  rw [gathered, gathered, DocumentSet.toList_map, List.flatMap_map]
  exact congrArg (fun read => distinct (set.toList.flatMap read))
    (funext (Document.referencesAt_modifyAt apart change))

theorem replacement_expandedAt (apart : ¬ path <+: other) (set : DocumentSet) :
    replacement store registry root locale (expandedAt store registry root locale set path) other =
      replacement store registry root locale set other := by
  simp only [replacement, expandedAt, hasCandidates_map apart, referentsIn, gathered_map apart]

theorem callsFor_expandedAt (apart : ¬ path <+: other) (set : DocumentSet) :
    callsFor registry root (expandedAt store registry root locale set path) other =
      callsFor registry root set other := by
  simp only [callsFor, callsOf, expandedAt, hasCandidates_map apart, gathered_map apart]

theorem expandedAt_comm (apart : ¬ path <+: other) (apart' : ¬ other <+: path)
    (set : DocumentSet) :
    expandedAt store registry root locale (expandedAt store registry root locale set path) other =
      expandedAt store registry root locale (expandedAt store registry root locale set other)
        path := by
  have one := @replacement_expandedAt store registry root locale path other apart set
  have two := @replacement_expandedAt store registry root locale other path apart' set
  simp only [expandedAt] at one two ⊢
  rw [one, two]
  cases set with
  | one document =>
    exact congrArg DocumentSet.one (Document.modifyAt_comm apart apart' _ _ document)
  | many documents =>
    simp only [DocumentSet.map, List.map_map]
    refine congrArg DocumentSet.many (List.map_congr_left fun document _ => ?_)
    exact Document.modifyAt_comm apart apart' _ _ document

end Independent

/-- A deep expansion that nothing refuses never fails, and makes the same calls whatever was called
before. -/
theorem expandPaths_noted (paths : List String) (set : DocumentSet) :
    ∃ documents made, ∀ calls,
      (expandPaths noted registry root locale paths set).run ⟨store, calls⟩ =
        (({ documents }, ⟨store, made ++ calls⟩) : DeepRun × Observed Store) := by
  induction paths generalizing set with
  | nil => exact ⟨set, [], fun _ => rfl⟩
  | cons path rest ih =>
    obtain ⟨documents, made, later⟩ :=
      ih (expandedAt store registry root locale set (Path.ofText path))
    refine ⟨documents, made ++ callsFor registry root set (Path.ofText path), fun calls => ?_⟩
    rw [run_expandPaths_of_ok rest (expandPath_noted set _ calls), later, List.append_assoc]

/-- Two paths side by side, neither of which goes through the end of the other, can change
places. -/
theorem expandPaths_swap {path other : String}
    (apart : ¬ Path.ofText path <+: Path.ofText other)
    (apart' : ¬ Path.ofText other <+: Path.ofText path) (front back : List String)
    (set : DocumentSet) :
    ∃ documents made made', made.Perm made' ∧ ∀ calls,
      (expandPaths noted registry root locale (front ++ path :: other :: back) set).run
        ⟨store, calls⟩ = (({ documents }, ⟨store, made ++ calls⟩) : DeepRun × Observed Store) ∧
      (expandPaths noted registry root locale (front ++ other :: path :: back) set).run
        ⟨store, calls⟩ = (({ documents }, ⟨store, made' ++ calls⟩) : DeepRun × Observed Store) := by
  induction front generalizing set with
  | nil =>
    let first := callsFor registry root set (Path.ofText path)
    let second := callsFor registry root set (Path.ofText other)
    obtain ⟨documents, made, later⟩ := @expandPaths_noted store registry root locale back
      (expandedAt store registry root locale
        (expandedAt store registry root locale set (Path.ofText path)) (Path.ofText other))
    refine ⟨documents, made ++ (second ++ first), made ++ (first ++ second),
      List.perm_append_comm.append_left made, fun calls => ⟨?_, ?_⟩⟩
    · rw [List.nil_append, run_expandPaths_of_ok _ (expandPath_noted set _ calls),
        run_expandPaths_of_ok _ (expandPath_noted _ _ _), callsFor_expandedAt apart, later]
      simp only [List.append_assoc, first, second]
    · rw [List.nil_append, run_expandPaths_of_ok _ (expandPath_noted set _ calls),
        run_expandPaths_of_ok _ (expandPath_noted _ _ _), callsFor_expandedAt apart',
        ← expandedAt_comm apart apart', later]
      simp only [List.append_assoc, first, second]
  | cons earlier front ih =>
    obtain ⟨documents, made, made', same, later⟩ :=
      ih (expandedAt store registry root locale set (Path.ofText earlier))
    let first := callsFor registry root set (Path.ofText earlier)
    refine ⟨documents, made ++ first, made' ++ first, same.append_right first, fun calls => ?_⟩
    obtain ⟨one, two⟩ := later (first ++ calls)
    rw [List.append_assoc, List.append_assoc]
    exact ⟨(run_expandPaths_of_ok _ (expandPath_noted set _ calls)).trans one,
      (run_expandPaths_of_ok _ (expandPath_noted set _ calls)).trans two⟩

/-- Two neighbouring paths, neither of which goes through the end of the other, can change places:
deep expansion gives the same documents, and its calls are the same but for their order. -/
theorem deep_swap {path other : String}
    (apart : ¬ (Path.ofText path).ProperPrefix (Path.ofText other))
    (apart' : ¬ (Path.ofText other).ProperPrefix (Path.ofText path)) (store : Store)
    (registry : Registry) (collection locale : String) (front back : List String)
    (set : DocumentSet) :
    ∃ run made made',
      (deep noted registry collection locale (front ++ path :: other :: back) set).run
        ⟨store, []⟩ = (run, ⟨store, made⟩) ∧
      (deep noted registry collection locale (front ++ other :: path :: back) set).run
        ⟨store, []⟩ = (run, ⟨store, made'⟩) ∧
      made.Perm made' ∧ ((registry.get? collection).isSome = true → run.failure = none) := by
  rw [deep, deep]
  split
  · exact ⟨_, [], [], rfl, rfl, .nil, fun _ => rfl⟩
  rw [Registry.schema]
  cases registry.get? collection with
  | none => exact ⟨_, [], [], rfl, rfl, .nil, fun known => nomatch known⟩
  | some root =>
    by_cases same : path = other
    · subst same
      obtain ⟨documents, made, run⟩ := @expandPaths_noted store registry root locale
        (front ++ path :: path :: back) set
      have run := run []
      rw [List.append_nil] at run
      exact ⟨_, made, made, run, run, .refl made, fun _ => rfl⟩
    · have distinct : Path.ofText path ≠ Path.ofText other := fun equal =>
        same (by rw [← Path.text_ofText path, equal, Path.text_ofText])
      obtain ⟨documents, made, made', perm, runs⟩ :=
        @expandPaths_swap store registry root locale path other
          (fun through => apart ⟨through, distinct⟩)
          (fun through => apart' ⟨through, distinct.symm⟩) front back set
      obtain ⟨run, run'⟩ := runs []
      rw [List.append_nil] at run run'
      exact ⟨_, made, made', run, run', perm, fun _ => rfl⟩

def commented : Registry :=
  ⟨.ofPairs [("post", ⟨"post", [.plain "comments" (.array (.embedded ⟨"comment",
    [.plain "author" (.reference "user"), .plain "editor" (.array (.reference "user"))]⟩))]⟩),
    ("user", ⟨"user", []⟩)]⟩

def post : Document :=
  [("comments", .array [.document [("author", .objectId ⟨1⟩)],
    .document [("editor", .array [.objectId ⟨1⟩, .objectId ⟨2⟩]), ("author", .objectId ⟨2⟩)]])]

def authors : Store :=
  (Store.empty.insert "user" [[(idKey, .objectId ⟨1⟩)]]).2

/-- Authors and editors of comments are independent, although both lie within the same array. -/
theorem deep_swap_comments :
    ¬ (Path.ofText "comments.author").ProperPrefix (Path.ofText "comments.editor") ∧
    ¬ (Path.ofText "comments.editor").ProperPrefix (Path.ofText "comments.author") ∧
    ∃ run made made',
      (deep noted commented "post" "en" ["comments.author", "comments.editor"]
        (.many [post])).run ⟨authors, []⟩ = (run, ⟨authors, made⟩) ∧
      (deep noted commented "post" "en" ["comments.editor", "comments.author"]
        (.many [post])).run ⟨authors, []⟩ = (run, ⟨authors, made'⟩) ∧
      made.Perm made' ∧ ((commented.get? "post").isSome = true → run.failure = none) := by
  have apart : ¬ (Path.ofText "comments.author").ProperPrefix (Path.ofText "comments.editor") := by
    decide
  have apart' : ¬ (Path.ofText "comments.editor").ProperPrefix (Path.ofText "comments.author") := by
    decide
  exact ⟨apart, apart', deep_swap apart apart' authors commented "post" "en" [] [] (.many [post])⟩

end Population

end DocumentQuery
