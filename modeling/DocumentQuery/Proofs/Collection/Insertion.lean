import DocumentQuery.Proofs.Population.Identity
import DocumentQuery.Proofs.Projection.Collision
import DocumentQuery.Proofs.Store.Operations
import DocumentQuery.Proofs.Sync.History
import DocumentQuery.Proofs.Sync.Requests
import Mathlib.Data.List.Nodup

/-! What an insertion stores. Documents are stored as they are given, with an identifier and the
dates of the insertion added at the end where they lack them. The identifiers of a batch are the
ones its documents have and the generated ones, so that a batch is refused for the former alone,
as long as what is generated is new.
-/

set_option autoImplicit false

namespace DocumentQuery

namespace Document

/-- A document with entries added at its end, those whose keys it lacks. -/
def extended (document additions : Document) : Document :=
  document ++ additions.filter fun entry => ! document.hasKey entry.1

theorem hasKey_iff {document : Document} {key : String} :
    document.hasKey key = true ↔ key ∈ document.map Prod.fst := by
  induction document with
  | nil => simp [hasKey]
  | cons entry rest ih =>
    obtain ⟨name, value⟩ := entry
    rw [hasKey, get?, List.map_cons, List.mem_cons]
    split
    · rename_i same
      simp [same]
    · rename_i other
      exact ih.trans (or_iff_right (Ne.symm other)).symm

theorem extended_single (document : Document) (key : String) (value : Value) :
    document.extended [(key, value)] =
      if document.hasKey key then document else document.set key value := by
  cases there : document.hasKey key with
  | true => simp [extended, there]
  | false =>
    have absent : key ∉ document.map Prod.fst := fun listed => by
      rw [hasKey_iff.2 listed] at there
      cases there
    simp [extended, there, set_of_absent value absent]

theorem hasKey_extended {additions : Document} {key : String}
    (apart : key ∉ additions.map Prod.fst) (document : Document) :
    (document.extended additions).hasKey key = document.hasKey key := by
  rw [Bool.eq_iff_iff, hasKey_iff, hasKey_iff, extended, List.map_append, List.mem_append]
  exact or_iff_left fun listed =>
    apart (List.map_subset Prod.fst (List.filter_subset_self _) listed)

theorem extended_append {first second : Document}
    (apart : ∀ entry ∈ second, entry.1 ∉ first.map Prod.fst) (document : Document) :
    document.extended (first ++ second) = (document.extended first).extended second := by
  have same : (second.filter fun entry => ! document.hasKey entry.1) =
      second.filter fun entry => ! (document.extended first).hasKey entry.1 :=
    List.filter_congr fun entry there => by rw [hasKey_extended (apart entry there)]
  rw [extended, List.filter_append, same, ← List.append_assoc]
  rfl

/-- The identifier of a document, if it has one, is an object id. -/
def Identifiable (document : Document) : Prop :=
  ∀ value, document.get? idKey = some value → ∃ id, value = .objectId id

end Document

namespace Collection

variable {schema : Schema} {now : Timestamp} {fresh : Nat → ObjectId} {used : Nat}
  {document : Document} {documents prepared : List Document} {ids : List ObjectId}

def date (schema : Schema) (now : Timestamp) (key : String) : Document :=
  if (schema.field? key).isSome then [(key, .date now)] else []

/-- A document as it is stored by an insertion: with an identifier and the declared dates, as far as
it does not have them. -/
def completed (schema : Schema) (now : Timestamp) (id : ObjectId) (document : Document) :
    Document :=
  document.extended
    ((idKey, .objectId id) :: (date schema now "created" ++ date schema now "updated"))

theorem mem_date {key : String} {entry : String × Value} (there : entry ∈ date schema now key) :
    entry.1 = key := by
  rw [date] at there
  split at there
  · rw [List.mem_singleton.1 there]
  · cases there

theorem stamp_eq_extended (schema : Schema) (now : Timestamp) (document : Document) (key : String) :
    stamp schema now document key = document.extended (date schema now key) := by
  rw [stamp, date]
  cases (schema.field? key).isSome with
  | false => simp [Document.extended]
  | true =>
    rw [if_pos rfl, Document.extended_single]
    cases document.hasKey key <;> rfl

theorem stampAll_eq_extended (schema : Schema) (now : Timestamp) (document : Document) :
    stampAll schema now document =
      document.extended (date schema now "created" ++ date schema now "updated") := by
  have apart : ∀ entry ∈ date schema now "updated",
      entry.1 ∉ (date schema now "created").map Prod.fst := by
    intro entry there listed
    obtain ⟨other, created, same⟩ := List.mem_map.1 listed
    rw [mem_date there, mem_date created] at same
    exact absurd same (by decide)
  rw [stampAll, stamp_eq_extended, stamp_eq_extended, Document.extended_append apart]

theorem completed_eq (schema : Schema) (now : Timestamp) (id : ObjectId) (document : Document) :
    completed schema now id document =
      stampAll schema now (document.extended [(idKey, .objectId id)]) := by
  have apart : ∀ entry ∈ date schema now "created" ++ date schema now "updated",
      entry.1 ∉ [(idKey, Value.objectId id)].map Prod.fst := by
    intro entry there listed
    have own : entry.1 = idKey := List.mem_singleton.1 listed
    rcases List.mem_append.1 there with there | there
    · exact absurd ((mem_date there).symm.trans own) (by decide)
    · exact absurd ((mem_date there).symm.trans own) (by decide)
  rw [stampAll_eq_extended, ← Document.extended_append apart]
  rfl

section Preparation

theorem prepare_named {id : ObjectId} (named : document.id? = some id) (rest : List Document) :
    prepare schema now fresh used (document :: rest) =
      (prepare schema now fresh used rest).map fun more =>
        (id :: more.1, completed schema now id document :: more.2) := by
  have found := Document.id?_eq_some_iff.1 named
  have same : completed schema now id document = stampAll schema now document := by
    rw [completed_eq, Document.extended_single, Document.hasKey, found]
    rfl
  simp only [prepare, found, same, bind, Except.bind]
  cases prepare schema now fresh used rest <;> rfl

theorem prepare_unnamed (absent : document.get? idKey = none) (rest : List Document) :
    prepare schema now fresh used (document :: rest) =
      (prepare schema now fresh (used + 1) rest).map fun more =>
        (fresh used :: more.1, completed schema now (fresh used) document :: more.2) := by
  have same : completed schema now (fresh used) document =
      stampAll schema now (document.set idKey (.objectId (fresh used))) := by
    rw [completed_eq, Document.extended_single, Document.hasKey, absent]
    rfl
  simp only [prepare, absent, same, bind, Except.bind]
  cases prepare schema now fresh (used + 1) rest <;> rfl

/-- The identifiers of a batch: those its documents have, and new ones for the others. -/
def assigned (fresh : Nat → ObjectId) : (used : Nat) → List Document → List ObjectId
  | _, [] => []
  | used, document :: rest =>
    document.id?.getD (fresh used) ::
      assigned fresh (if document.id?.isNone then used + 1 else used) rest

def generated (fresh : Nat → ObjectId) (used : Nat) (documents : List Document) : List ObjectId :=
  (List.range' used (documents.countP (·.id?.isNone))).map fresh

theorem assigned_named {id : ObjectId} (named : document.id? = some id) (rest : List Document) :
    assigned fresh used (document :: rest) = id :: assigned fresh used rest := by
  simp [assigned, named]

theorem assigned_unnamed (absent : document.id? = none) (rest : List Document) :
    assigned fresh used (document :: rest) = fresh used :: assigned fresh (used + 1) rest := by
  simp [assigned, absent]

theorem generated_named {id : ObjectId} (named : document.id? = some id) (rest : List Document) :
    generated fresh used (document :: rest) = generated fresh used rest := by
  simp [generated, named]

theorem generated_unnamed (absent : document.id? = none) (rest : List Document) :
    generated fresh used (document :: rest) = fresh used :: generated fresh (used + 1) rest := by
  simp [generated, absent, List.range'_succ]

theorem assigned_perm (fresh : Nat → ObjectId) (used : Nat) (documents : List Document) :
    (assigned fresh used documents).Perm
      (documents.filterMap Document.id? ++ generated fresh used documents) := by
  induction documents generalizing used with
  | nil => exact .nil
  | cons document rest ih =>
    cases named : document.id? with
    | some id =>
      rw [assigned_named named, generated_named named, List.filterMap_cons_some named]
      exact (ih used).cons id
    | none =>
      rw [assigned_unnamed named, generated_unnamed named, List.filterMap_cons_none named]
      exact ((ih (used + 1)).cons (fresh used)).trans List.perm_middle.symm

theorem prepare_of_identifiable (each : ∀ document ∈ documents, document.Identifiable) :
    prepare schema now fresh used documents =
      .ok (assigned fresh used documents,
        List.zipWith (completed schema now) (assigned fresh used documents) documents) := by
  induction documents generalizing used with
  | nil => rfl
  | cons document rest ih =>
    obtain ⟨here, later⟩ := List.forall_mem_cons.1 each
    cases found : document.get? idKey with
    | none =>
      have unnamed : document.id? = none := by rw [Document.id?, found]
      rw [prepare_unnamed found, assigned_unnamed unnamed, ih later]
      rfl
    | some value =>
      obtain ⟨id, rfl⟩ := here value found
      have named := Document.id?_eq_some_iff.2 found
      rw [prepare_named named, assigned_named named, ih later]
      rfl

theorem identifiable_of_prepare
    (ready : prepare schema now fresh used documents = .ok (ids, prepared)) :
    ∀ document ∈ documents, document.Identifiable := by
  induction documents generalizing used ids prepared with
  | nil => exact fun document there => absurd there List.not_mem_nil
  | cons document rest ih =>
    obtain ⟨id, named, next, others, more, own, kept, later, rfl, rfl⟩ := prepare_cons_ok ready
    refine List.forall_mem_cons.2 ⟨fun value found => ?_, ih later⟩
    cases value with
    | objectId id => exact ⟨id, rfl⟩
    | _ => simp [prepare, found, bind, Except.bind] at ready

theorem map_id?_completed (schema : Schema) (now : Timestamp) (fresh : Nat → ObjectId) (used : Nat)
    (each : ∀ document ∈ documents, document.Identifiable) :
    (List.zipWith (completed schema now) (assigned fresh used documents) documents).map
      Document.id? = (assigned fresh used documents).map some :=
  ids_of_prepare (prepare_of_identifiable each)

theorem length_assigned (fresh : Nat → ObjectId) (used : Nat) (documents : List Document) :
    (assigned fresh used documents).length = documents.length := by
  induction documents generalizing used with
  | nil => rfl
  | cons document rest ih => rw [assigned, List.length_cons, List.length_cons, ih]

end Preparation

end Collection

section Batches

variable {documents : List Document} {ids : List ObjectId}

theorem admits_iff_of_named (named : documents.map Document.id? = ids.map some)
    {held : ObjectId → Option Document} :
    Admits held documents ↔ (∀ id ∈ ids, held id = none) ∧ ids.Nodup := by
  have unheld : (∀ document ∈ documents, (document.id?.any fun id => (held id).isNone) = true) ↔
      ∀ id ∈ ids, held id = none := by
    constructor
    · intro free id there
      have listed : some id ∈ documents.map Document.id? := named ▸ List.mem_map_of_mem there
      obtain ⟨document, among, own⟩ := List.mem_map.1 listed
      simpa [own] using free document among
    · intro free document there
      have listed : document.id? ∈ ids.map some := named ▸ List.mem_map_of_mem there
      obtain ⟨id, among, own⟩ := List.mem_map.1 listed
      simpa [← own] using free id among
  have distinct : (documents.Pairwise fun a b => a.id? ≠ b.id?) ↔ ids.Nodup := by
    rw [← List.pairwise_map (R := (· ≠ ·)), named]
    exact List.nodup_map_iff fun _ _ => Option.some.inj
  exact and_congr unheld distinct

theorem filterMap_of_named (named : documents.map Document.id? = ids.map some)
    {held : ObjectId → Option Document}
    (each : ∀ document ∈ documents, ∀ id, document.id? = some id → held id = some document) :
    ids.filterMap held = documents := by
  induction documents generalizing ids with
  | nil =>
    rw [List.map_eq_nil_iff.1 named.symm]
    rfl
  | cons document rest ih =>
    rcases ids with _ | ⟨id, ids⟩
    · cases named
    · obtain ⟨own, later⟩ := List.cons.inj named
      obtain ⟨here, others⟩ := List.forall_mem_cons.1 each
      rw [List.filterMap_cons_some (here id own), ih later others]

end Batches

namespace Store

variable {store after : Store} {name : String} {documents : List Document} {ids : List ObjectId}

theorem get_of_inserted (inserted : store.insert name documents = (.ok (), after))
    (named : documents.map Document.id? = ids.map some) :
    after.get name ids none = documents := by
  obtain ⟨shelf, all, rfl⟩ := insert_ok_iff.1 inserted
  rw [get_eq_filterMap]
  refine filterMap_of_named named fun document there id own => ?_
  rw [contents, shelf_withShelf, if_pos rfl]
  exact (get?_insertAll all id document).2 (.inr ⟨there, own⟩)

theorem contents_of_inserted (inserted : store.insert name documents = (.ok (), after))
    (named : documents.map Document.id? = ids.map some) {other : String} {id : ObjectId}
    (apart : other = name → id ∉ ids) : after.contents other id = store.contents other id := by
  obtain ⟨shelf, all, rfl⟩ := insert_ok_iff.1 inserted
  rw [contents, shelf_withShelf]
  split
  · rename_i same
    subst same
    have absent : documents.find? (·.id? = some id) = none := by
      refine List.find?_eq_none.2 fun document there => ?_
      rw [decide_eq_true_iff]
      intro own
      have listed : some id ∈ ids.map some := named ▸ own ▸ List.mem_map_of_mem there
      simp only [List.mem_map, Option.some.injEq, exists_eq_right] at listed
      exact apart rfl listed
    rw [get?_insertAll_eq all, absent, Option.or_none]
    rfl
  · rfl

theorem exists_insert_iff (named : documents.map Document.id? = ids.map some) :
    (∃ after, store.insert name documents = (.ok (), after)) ↔
      (∀ id ∈ ids, store.contents name id = none) ∧ ids.Nodup := by
  simp only [insert_ok_iff]
  rw [← admits_iff_of_named named]
  constructor
  · rintro ⟨after, shelf, all, _⟩
    exact exists_insertAll_iff.1 ⟨shelf, all⟩
  · intro admits
    obtain ⟨shelf, all⟩ := exists_insertAll_iff.2 admits
    exact ⟨_, shelf, all, rfl⟩

end Store

namespace Collection

/-- What is generated for a batch is new: its identifiers differ from each other, and no document of
the batch or of the collection has one of them. -/
structure GeneratesNew (fresh : Nat → ObjectId) (held : ObjectId → Option Document)
    (documents : List Document) : Prop where
  distinct : (generated fresh 0 documents).Nodup
  ungiven : ∀ id ∈ generated fresh 0 documents, id ∉ documents.filterMap Document.id?
  unheld : ∀ id ∈ generated fresh 0 documents, held id = none

theorem GeneratesNew.assigned_iff {fresh : Nat → ObjectId} {held : ObjectId → Option Document}
    {documents : List Document} (new : GeneratesNew fresh held documents) :
    ((∀ id ∈ assigned fresh 0 documents, held id = none) ∧ (assigned fresh 0 documents).Nodup) ↔
      (∀ id ∈ documents.filterMap Document.id?, held id = none) ∧
        (documents.filterMap Document.id?).Nodup := by
  have same := assigned_perm fresh 0 documents
  rw [same.nodup_iff, List.nodup_append]
  simp only [same.mem_iff, List.forall_mem_append]
  constructor
  · rintro ⟨⟨given, _⟩, distinct, _⟩
    exact ⟨given, distinct⟩
  · rintro ⟨given, distinct⟩
    refine ⟨⟨given, new.unheld⟩, distinct, new.distinct, fun id there other listed => ?_⟩
    rintro rfl
    exact new.ungiven id listed there

theorem insert_on_ok_iff {schema : Schema} {journal : String} {store after : Store}
    {now : Timestamp} {fresh : Nat → ObjectId} {documents : List Document} {ids : List ObjectId} :
    ((⟨schema, Store.backend, journal⟩ : Collection Store).insert now fresh documents).on store =
        (.ok ids, after) ↔
      (∀ document ∈ documents, document.Identifiable) ∧ ids = assigned fresh 0 documents ∧
        store.insert schema.name (List.zipWith (completed schema now) ids documents) =
          (.ok (), after) := by
  rw [insert_on_ok]
  constructor
  · rintro ⟨prepared, ready, inserted⟩
    have each := identifiable_of_prepare ready
    rw [prepare_of_identifiable each] at ready
    cases ready
    exact ⟨each, rfl, inserted⟩
  · rintro ⟨each, rfl, inserted⟩
    exact ⟨_, prepare_of_identifiable each, inserted⟩

/-- An insertion that succeeds gives one identifier for each document, in order, each another and
none stored before. These lead to the documents of the batch, completed at one time, and all that
is held elsewhere stays. It succeeds exactly when the identifiers that documents have are object
ids, not stored yet and not repeated, provided that what is generated is new. -/
theorem insert_stores (schema : Schema) (journal : String) (store : Store) (now : Timestamp)
    (fresh : Nat → ObjectId) (documents : List Document) :
    let collection : Collection Store := ⟨schema, Store.backend, journal⟩
    (∀ ids after, (collection.insert now fresh documents).on store = (.ok ids, after) →
      ids.length = documents.length ∧ ids.Nodup ∧
      (∀ id ∈ ids, store.contents collection.name id = none) ∧
      (collection.get ids none).on after =
        (.ok (List.zipWith (completed schema now) ids documents), after) ∧
      (List.zipWith (completed schema now) ids documents).map Document.id? = ids.map some ∧
      ∀ name id, (name = collection.name → id ∉ ids) →
        after.contents name id = store.contents name id) ∧
    (GeneratesNew fresh (store.contents collection.name) documents →
      ((∃ ids after, (collection.insert now fresh documents).on store = (.ok ids, after)) ↔
        (∀ document ∈ documents, document.Identifiable) ∧
        (∀ id ∈ documents.filterMap Document.id?, store.contents collection.name id = none) ∧
        (documents.filterMap Document.id?).Nodup)) := by
  intro collection
  refine ⟨fun ids after run => ?_, fun new => ?_⟩
  · obtain ⟨each, rfl, inserted⟩ := insert_on_ok_iff.1 run
    have named := map_id?_completed schema now fresh 0 each
    obtain ⟨unheld, distinct⟩ := (Store.exists_insert_iff named).1 ⟨after, inserted⟩
    refine ⟨length_assigned fresh 0 documents, distinct, unheld, ?_, named, fun name id apart => ?_⟩
    · exact Prod.ext (congrArg Except.ok (Store.get_of_inserted inserted named)) rfl
    · exact Store.contents_of_inserted inserted named apart
  · rw [← new.assigned_iff]
    constructor
    · rintro ⟨ids, after, run⟩
      obtain ⟨each, rfl, inserted⟩ := insert_on_ok_iff.1 run
      have named := map_id?_completed schema now fresh 0 each
      exact ⟨each, (Store.exists_insert_iff named).1 ⟨after, inserted⟩⟩
    · rintro ⟨each, admitted⟩
      have named := map_id?_completed schema now fresh 0 each
      obtain ⟨after, inserted⟩ := (Store.exists_insert_iff named).2 admitted
      exact ⟨_, after, insert_on_ok_iff.2 ⟨each, rfl, inserted⟩⟩

/-- Posts have dates. The first and the last one come without an identifier, and the other one was
changed before it is stored. -/
theorem insert_stores_posts :
    let posts : Collection Store := ⟨.post, Store.backend, defaultJournal⟩
    let store := (Store.empty.insert "post" [[(idKey, .objectId ⟨5⟩)]]).2
    let batch : List Document :=
      [[("title", .string "Rivers")], [("updated", .date ⟨1⟩), (idKey, .objectId ⟨7⟩)], []]
    let fresh : Nat → ObjectId := fun n => if n = 0 then ⟨1⟩ else ⟨2⟩
    GeneratesNew fresh (store.contents "post") batch ∧
      ∃ after, (posts.insert ⟨3⟩ fresh batch).on store = (.ok [⟨1⟩, ⟨7⟩, ⟨2⟩], after) ∧
        (posts.get [⟨1⟩, ⟨7⟩, ⟨2⟩] none).on after =
          (.ok [[("title", .string "Rivers"), (idKey, .objectId ⟨1⟩), ("created", .date ⟨3⟩),
              ("updated", .date ⟨3⟩)],
            [("updated", .date ⟨1⟩), (idKey, .objectId ⟨7⟩), ("created", .date ⟨3⟩)],
            [(idKey, .objectId ⟨2⟩), ("created", .date ⟨3⟩), ("updated", .date ⟨3⟩)]], after) := by
  intro posts store batch fresh
  have new : GeneratesNew fresh (store.contents "post") batch :=
    ⟨by decide +kernel, by decide +kernel, by decide +kernel⟩
  have identifiable : ∀ document ∈ batch, document.Identifiable := by
    simp [batch, Document.Identifiable, Document.get?, idKey]
  obtain ⟨stores, admits⟩ := insert_stores .post defaultJournal store ⟨3⟩ fresh batch
  obtain ⟨ids, after, run⟩ :=
    (admits new).2 ⟨identifiable, by decide +kernel, by decide +kernel⟩
  have same : ids = [⟨1⟩, ⟨7⟩, ⟨2⟩] := (insert_on_ok_iff.1 run).2.1
  subst same
  obtain ⟨_, _, _, found, _⟩ := stores _ after run
  exact ⟨new, after, run, found⟩

end Collection

end DocumentQuery
