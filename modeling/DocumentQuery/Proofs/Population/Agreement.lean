import DocumentQuery.Proofs.Disclosure.Leak
import DocumentQuery.Proofs.Population.Independence
import DocumentQuery.Proofs.Population.Paths
import DocumentQuery.Proofs.Projection.Erasure

/-! Shallow and deep expansion of one path. A path that leads to a reference through embedded
documents leads to the same collection where references are followed too. So both expansions
ask for the same documents and put them in the same places; they differ in how the documents
are shown there. Shallow expansion hides the variants for other locales, and deep expansion
adds a stamp.
-/

set_option autoImplicit false

namespace DocumentQuery

theorem Projection.keepsId_of_excludesExactly {projection : Option Projection}
    {paths : List String} (excludes : ExcludesExactly projection paths) (spared : idKey ∉ paths) :
    KeepsId projection := by
  rintro selection rfl
  rw [hidesId, List.contains_eq_mem, decide_eq_false_iff_not]
  exact fun listed => spared ((excludes (idKey, false)).1 listed).2

theorem Path.dot_mem_text (first next : String) (rest : Path) :
    '.' ∈ (Path.text (first :: next :: rest)).toList := by
  rw [Path.text, String.intercalate_cons_cons, String.toList_append, String.toList_append]
  simp

namespace Value

mutual

theorem mapIdentifiers_objectId (value : Value) : value.mapIdentifiers .objectId = value := by
  match value with
  | .objectId id => rfl
  | .array items => rw [mapIdentifiers, mapIdentifiersIn_objectId]
  | .document _ | .null | .undefined | .minKey | .maxKey | .bool _ | .int32 _ | .int64 _
  | .double _ | .string _ | .date _ | .sealed _ => rfl

theorem mapIdentifiersIn_objectId (items : List Value) :
    mapIdentifiersIn .objectId items = items := by
  match items with
  | [] => rfl
  | item :: rest =>
    rw [mapIdentifiersIn, mapIdentifiers_objectId, mapIdentifiersIn_objectId]

end

end Value

namespace Schema

theorem exists_of_mem_variantPaths {path : Path} {others : List String} {schema : Schema}
    (there : path ∈ schema.variantPaths others) :
    ∃ first next rest, path = first :: next :: rest := by
  obtain ⟨field, _, ⟨_, locale, _, rfl⟩ | ⟨inner, _, rest, deeper, rfl⟩⟩ :=
    mem_variantPaths.1 there
  · exact ⟨_, _, _, rfl⟩
  · obtain ⟨next, more, rfl⟩ := List.exists_cons_of_ne_nil (ne_nil_of_mem_variantPaths deeper)
    exact ⟨_, _, _, rfl⟩

theorem keepsId_localeExclusions (schema : Schema) (locale : String) (supported : List String) :
    Projection.KeepsId (schema.localeExclusions? locale supported) := by
  refine Projection.keepsId_of_excludesExactly (Projection.excludesExactly_hiding _) ?_
  intro listed
  obtain ⟨path, variant, same⟩ := List.mem_map.1 listed
  obtain ⟨first, next, rest, rfl⟩ := exists_of_mem_variantPaths variant
  have dotted : '.' ∈ idKey.toList := same ▸ Path.dot_mem_text first next rest
  exact absurd dotted (by decide)

end Schema

namespace Population

/-- The selection that hides, in the documents of a collection, the variants for other locales. -/
def localeSelection (registry : Registry) (supported : List String) (locale target : String) :
    Option Projection :=
  (registry.get? target).bind (·.localeExclusions? locale supported)

/-- The document that stands for an identifier which some documents hold at a path, without what
only administrators may see. It needs an identifier to be recognized by. -/
def disclosed (store : Store) (registry : Registry) (documents : List Document) (path : Path)
    (target : String) (id : ObjectId) : Option Document :=
  if id ∈ gathered documents path then
    (referent? store target (deepSelection registry target) id).filter (·.id?.isSome)
  else none

/-- A document whose identifiers at a path are replaced by their referents, each in some shape. -/
def substituted (referent? : ObjectId → Option Document) (shape : Document → Document)
    (path : Path) (document : Document) : Document :=
  document.modifyAt
    (·.mapIdentifiers (Value.resolved (fun id => (referent? id).map shape) none)) path

section Referents

variable {store : Store} (registry : Registry) (supported : List String) (locale target : String)

/-- A shallow expansion selects first what a deep one does and then hides the other locales. -/
theorem applyTo_selectionOf (document : Document) :
    Projection.applyTo (selectionOf registry supported locale target) document =
      Projection.applyTo (localeSelection registry supported locale target)
        (Projection.applyTo (deepSelection registry target) document) := by
  rw [selectionOf, localeSelection, deepSelection]
  cases registry.get? target with
  | none => rfl
  | some schema =>
    exact Projection.applyTo_both (Projection.excludesExactly_hiding _)
      (Projection.excludesExactly_hiding _) document

theorem keepsId_localeSelection :
    Projection.KeepsId (localeSelection registry supported locale target) := by
  rw [localeSelection]
  cases registry.get? target with
  | none => nofun
  | some schema => exact schema.keepsId_localeExclusions locale supported

theorem id?_applyTo_localeSelection (document : Document) :
    (Projection.applyTo (localeSelection registry supported locale target) document).id? =
      document.id? := by
  apply Option.ext
  intro id
  exact ⟨Projection.id?_of_applyTo,
    Projection.id?_applyTo (keepsId_localeSelection registry supported locale target)⟩

theorem get?_referentsIn_deep (keyed : store.Keyed) (documents : List Document) (path : Path)
    (id : ObjectId) :
    (referentsIn store documents path target (deepSelection registry target)).get? id =
      disclosed store registry documents path target id := by
  rw [get?_referentsIn_eq keyed, disclosed]

/-- The referents of a shallow expansion are those of a deep one without the other locales. -/
theorem get?_referentsIn_shallow (keyed : store.Keyed) (documents : List Document) (path : Path)
    (id : ObjectId) :
    (referentsIn store documents path target
        (selectionOf registry supported locale target)).get? id =
      (disclosed store registry documents path target id).map
        (Projection.applyTo (localeSelection registry supported locale target)) := by
  have narrowed : referent? store target (selectionOf registry supported locale target) id =
      (referent? store target (deepSelection registry target) id).map
        (Projection.applyTo (localeSelection registry supported locale target)) := by
    rw [referent?, referent?, Option.map_map]
    exact congrArg (Option.map · _)
      (funext (applyTo_selectionOf registry supported locale target))
  rw [get?_referentsIn_eq keyed, disclosed, narrowed]
  split
  · rw [Option.filter_map]
    congr 1
    refine congrArg (Option.filter · _) (funext fun document => ?_)
    exact congrArg Option.isSome
      (id?_applyTo_localeSelection registry supported locale target document)
  · rfl

end Referents

theorem resolved_some (referent? : ObjectId → Option Document) (stamp : String) :
    Value.resolved referent? (some stamp) =
      Value.resolved (fun id => (referent? id).map (·.set localeKey (.string stamp))) none := by
  funext id
  rw [Value.resolved, Value.resolved]
  cases referent? id <;> rfl

section Reach

variable {set : DocumentSet} {path : Path}

theorem gathered_of_not_hasCandidates (unreached : hasCandidates set path = false) :
    gathered set.toList path = [] := by
  refine List.eq_nil_iff_forall_not_mem.2 fun id there => ?_
  obtain ⟨document, listed, held⟩ := mem_gathered.1 there
  rcases List.eq_nil_or_concat path with rfl | ⟨front, key, rfl⟩
  · cases held
  · rw [List.concat_eq_append] at unreached held
    rw [hasCandidates, List.dropLast_concat, List.any_eq_false] at unreached
    have empty : document.documentsAt front = [] := by simpa using unreached document listed
    rw [Document.referencesAt_append, empty] at held
    cases held

theorem disclosed_of_not_hasCandidates (unreached : hasCandidates set path = false)
    (store : Store) (registry : Registry) (target : String) :
    disclosed store registry set.toList path target = fun _ => none := by
  funext id
  rw [disclosed, gathered_of_not_hasCandidates unreached, if_neg List.not_mem_nil]

end Reach

theorem substituted_none (shape : Document → Document) (path : Path) (document : Document) :
    substituted (fun _ => none) shape path document = document := by
  have same : (·.mapIdentifiers (Value.resolved (fun _ => none) none)) = @id Value :=
    funext Value.mapIdentifiers_objectId
  rw [substituted]
  simp only [Option.map_none, same, Document.modifyAt_id]

section Agreement

variable {store : Store} {registry : Registry} {root : Schema} {path target : String}

theorem directive_of_typeAt? {type : FieldType} (supported : List String) (locale : String)
    (typed : root.typeAt? (Path.ofText path) = some type)
    (refers : type.referenceTarget? = some target) :
    directive registry supported locale root path =
      { path, target := some target,
        projection := selectionOf registry supported locale target } := by
  rw [directive, typed, Option.bind_some, refers]

theorem shallow_noted {type : FieldType} (keyed : store.Keyed) (supported : List String)
    (locale : String) (documents : List Document)
    (typed : root.typeAt? (Path.ofText path) = some type)
    (refers : type.referenceTarget? = some target) :
    (expandAll noted documents [directive registry supported locale root path]).on ⟨store, []⟩ =
      (.ok (documents.map (substituted
          (disclosed store registry documents (Path.ofText path) target)
          (Projection.applyTo (localeSelection registry supported locale target))
          (Path.ofText path))),
        ⟨store, callsOf documents (Path.ofText path) target
          (selectionOf registry supported locale target)⟩) := by
  obtain ⟨count, run⟩ := @expand_noted store documents (Path.ofText path) target
    (selectionOf registry supported locale target) none []
  have shown : (referentsIn store documents (Path.ofText path) target
      (selectionOf registry supported locale target)).get? = _ :=
    funext (get?_referentsIn_shallow registry supported locale target keyed documents
      (Path.ofText path))
  rw [directive_of_typeAt? supported locale typed refers, expandAll, Action.on_bind, run, shown,
    List.append_nil]
  simp only [Document.resolveAt_eq_modifyAt]
  rfl

/-- What expanding a path deeply does on the store in memory, when it leads to a reference. -/
theorem expandPath_disclosed (keyed : store.Keyed) (stamp : String) (set : DocumentSet)
    {path : Path} (leads : deepTarget? registry root path = some target) (calls : List Call) :
    (expandPath noted registry root stamp set path).on ⟨store, calls⟩ =
      (.ok (set.map (substituted (disclosed store registry set.toList path target)
          (·.set localeKey (.string stamp)) path)),
        ⟨store, callsOf set.toList path target (deepSelection registry target) ++ calls⟩) := by
  rw [expandPath_noted, expandedAt, replacement, callsFor]
  split
  · have shown : (referentsIn store set.toList path target (deepSelection registry target)).get? =
        disclosed store registry set.toList path target :=
      funext (get?_referentsIn_deep registry target keyed set.toList path)
    simp only [leads, shown, resolved_some]
    rfl
  · rename_i unreached
    have unreached : hasCandidates set path = false := by simpa using unreached
    have kept : substituted (fun _ => none) (·.set localeKey (.string stamp)) path = id :=
      funext (substituted_none _ path)
    rw [map_modifyAt_id, disclosed_of_not_hasCandidates unreached, kept, DocumentSet.map_id,
      callsOf, gathered_of_not_hasCandidates unreached]
    rfl

/-- A path that leads to a reference within a collection is expanded alike by its directive and by
deep expansion. Both ask the same collection for the same documents, or neither asks for any, and
put the same ones in the same places, one without the variants for other locales and the other
with a stamp. -/
theorem shallow_deep_agree {collection : String} {type : FieldType} (reachable : store.Reachable)
    (known : registry.get? collection = some root)
    (typed : root.typeAt? (Path.ofText path) = some type)
    (refers : type.referenceTarget? = some target) (supported : List String)
    (locale stamp : String) (set : DocumentSet) :
    (expandAll noted set.toList [directive registry supported locale root path]).on ⟨store, []⟩ =
        (.ok (set.toList.map (substituted
            (disclosed store registry set.toList (Path.ofText path) target)
            (Projection.applyTo (localeSelection registry supported locale target))
            (Path.ofText path))),
          ⟨store, callsOf set.toList (Path.ofText path) target
            (selectionOf registry supported locale target)⟩) ∧
      (deep noted registry collection stamp [path] set).run ⟨store, []⟩ =
        (({ documents := set.map (substituted
            (disclosed store registry set.toList (Path.ofText path) target)
            (·.set localeKey (.string stamp)) (Path.ofText path)) },
          ⟨store, callsOf set.toList (Path.ofText path) target
            (deepSelection registry target)⟩) : DeepRun × Observed Store) := by
  refine ⟨shallow_noted reachable.keyed supported locale set.toList typed refers, ?_⟩
  rw [deep]
  split
  · rename_i empty
    have nothing : set.toList = [] := List.isEmpty_iff.1 empty
    cases set with
    | one document => cases nothing
    | many documents =>
      cases nothing
      rfl
  · have leads := registry.deepTarget?_of_typeAt? typed refers
    have step := expandPath_disclosed reachable.keyed stamp set leads []
    rw [List.append_nil] at step
    rw [Registry.schema, known]
    exact run_expandPaths_of_ok [] step

end Agreement

def discussion : Schema :=
  ⟨"post", [.plain "comments" (.array (.embedded ⟨"comment",
    [.plain "author" (.reference "user")]⟩))]⟩

def writer : Schema :=
  ⟨"user", [⟨"bio", .primitive .string, true, false⟩,
    ⟨"salary", .primitive .number, false, true⟩]⟩

def translated : Registry :=
  ⟨.ofPairs [("post", discussion), ("user", writer)]⟩

def translators : Store :=
  (Store.empty.insert "user" [[(idKey, .objectId ⟨1⟩),
    ("bioI18n", .document [("en", .string "a"), ("de", .string "b")]), ("salary", .int32 3)]]).2

def postBy (author : Document) : Document :=
  [("comments", .array [.document [("author", .document author)],
    .document [("editor", .array [.objectId ⟨1⟩, .objectId ⟨2⟩]), ("author", .objectId ⟨2⟩)]])]

/-- Both expansions ask for two authors, and the one that is stored is shown in two ways. -/
theorem shallow_deep_agree_comments :
    translators.Reachable ∧ translated.get? "post" = some discussion ∧
    discussion.typeAt? (Path.ofText "comments.author") = some (.reference "user") ∧
    (FieldType.reference "user").referenceTarget? = some "user" ∧
    (expandAll noted [post] [directive translated ["en", "de"] "en" discussion
        "comments.author"]).on ⟨translators, []⟩ =
      (.ok [postBy [(idKey, .objectId ⟨1⟩), ("bioI18n", .document [("en", .string "a")])]],
        ⟨translators, [.get "user" [⟨1⟩, ⟨2⟩]
          (some ⟨[("salary", false), ("bioI18n.de", false)]⟩)]⟩) ∧
    (deep noted translated "post" "en" ["comments.author"] (.many [post])).run
        ⟨translators, []⟩ =
      (({ documents := .many [postBy [(idKey, .objectId ⟨1⟩),
          ("bioI18n", .document [("en", .string "a"), ("de", .string "b")]),
          (localeKey, .string "en")]] },
        ⟨translators, [.get "user" [⟨1⟩, ⟨2⟩] (some ⟨[("salary", false)]⟩)]⟩) :
          DeepRun × Observed Store) := by
  have reachable : translators.Reachable := .insert "user" _ .empty
  have known : translated.get? "post" = some discussion := by rfl
  have typed : discussion.typeAt? (Path.ofText "comments.author") = some (.reference "user") := by
    rfl
  have refers : (FieldType.reference "user").referenceTarget? = some "user" := by rfl
  obtain ⟨shallow, deep⟩ :=
    shallow_deep_agree reachable known typed refers ["en", "de"] "en" "en" (.many [post])
  exact ⟨reachable, known, typed, refers, shallow.trans (by rfl), deep.trans (by rfl)⟩

end Population

end DocumentQuery
