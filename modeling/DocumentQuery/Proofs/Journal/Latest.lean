import DocumentQuery.Proofs.Journal.Recorded
import DocumentQuery.Proofs.Store.Operations

/-! The journal as a map of latest deletions. Whatever deletions are recorded, one call after the
other and with identifiers that come again, the journal ends with one entry for each identifier
that was named, from the last call that named it. The entries that a sync request reads are chosen
from these.
-/

set_option autoImplicit false

namespace DocumentQuery.Journal

structure Recording where
  model : String
  time : Timestamp
  ids : List ObjectId
  deriving DecidableEq, Repr

def Recording.entry (recording : Recording) (id : ObjectId) : Document :=
  Journal.entry recording.model recording.time id

def Recording.on (recording : Recording) (journal : String) (store : Store) :
    Except AccessError Unit × Store :=
  (record Store.backend journal recording.model recording.time recording.ids).on store

/-- The last of some calls that named an identifier. A log has the last call first. -/
def latest? (log : List Recording) (id : ObjectId) : Option Recording :=
  log.find? (id ∈ ·.ids)

/-- The states of a store whose journal starts empty and is written by recording calls only, with
the log of these calls. Whatever else happens leaves the journal as it is. -/
inductive Run (journal : String) : Store → List Recording → Prop
  | start {store : Store} : store.shelf journal = .empty → Run journal store []
  | record {store : Store} {log : List Recording} (recording : Recording) :
      Run journal store log → Run journal (recording.on journal store).2 (recording :: log)
  | aside {store after : Store} {log : List Recording} :
      Run journal store log → after.shelf journal = store.shelf journal → Run journal after log

section Runs

variable {journal : String} {store : Store} {log : List Recording}

theorem get?_recorded (recording : Recording) (journal : String) (store : Store) :
    (recording.on journal store).1 = .ok () ∧
      ∀ id, ((recording.on journal store).2.shelf journal).get? id =
        if id ∈ recording.ids then some (recording.entry id)
        else (store.shelf journal).get? id := by
  obtain ⟨after, ran, records⟩ :=
    record_on store journal recording.model recording.time recording.ids
  rw [Recording.on, ran]
  refine ⟨rfl, fun id => ?_⟩
  rw [records]
  simp only [true_and]
  rfl

/-- Throughout a run, the journal holds the entries of the latest calls and no others. -/
theorem Run.get?_eq (run : Run journal store log) (id : ObjectId) :
    (store.shelf journal).get? id = (latest? log id).map (·.entry id) := by
  induction run with
  | start empty =>
    rw [empty]
    rfl
  | record recording _ ih =>
    rw [(get?_recorded recording journal _).2, ih, latest?, latest?, List.find?_cons]
    by_cases named : id ∈ recording.ids
    · simp [named]
    · simp [named]
  | aside _ same ih => rw [same, ih]

theorem Run.mem_values_iff (run : Run journal store log) {document : Document} :
    document ∈ (store.shelf journal).values ↔
      ∃ id recording, latest? log id = some recording ∧ recording.entry id = document := by
  rw [Store.mem_values_iff]
  simp only [Store.contents, run.get?_eq, Option.map_eq_some_iff]

theorem Run.pairwise_precedes (run : Run journal store log) :
    (store.shelf journal).values.Pairwise Document.Precedes := by
  refine Store.pairwise_precedes fun id document found => ?_
  rw [run.get?_eq] at found
  obtain ⟨recording, _, rfl⟩ := Option.map_eq_some_iff.1 found
  exact id?_entry recording.model recording.time id

/-- The journal is a map of the latest calls. However often identifiers come again within calls and
among them, every call succeeds, and the journal holds one entry for each identifier that was ever
named, with the model and the time of the last call that named it, and none besides. Of these, a
sync request reads the entries of its model from its bound on, each once, by their identifiers. -/
theorem Run.holds_latest (run : Run journal store log) :
    (∀ recording : Recording, (recording.on journal store).1 = .ok ()) ∧
      (store.shelf journal).values.Pairwise Document.Precedes ∧
      (∀ document, document ∈ (store.shelf journal).values ↔
        ∃ id recording, latest? log id = some recording ∧ recording.entry id = document) ∧
      ∀ model bound, ∃ documents,
        (deletedSince Store.backend journal model bound).on store = (.ok documents, store) ∧
        documents.Pairwise Document.Precedes ∧
        ∀ document, document ∈ documents ↔
          ∃ id recording, latest? log id = some recording ∧ recording.model = model ∧
            bound.millis ≤ recording.time.millis ∧ recording.entry id = document := by
  refine ⟨fun recording => (get?_recorded recording journal store).1, run.pairwise_precedes,
    fun document => run.mem_values_iff, fun model bound => ?_⟩
  refine ⟨_, deletedSince_on store journal model bound, run.pairwise_precedes.filter _,
    fun document => ?_⟩
  rw [List.mem_filter, run.mem_values_iff]
  constructor
  · rintro ⟨⟨id, recording, latest, rfl⟩, since⟩
    obtain ⟨own, later⟩ := isSince_entry_iff.1 since
    exact ⟨id, recording, latest, own, later, rfl⟩
  · rintro ⟨id, recording, latest, own, later, rfl⟩
    exact ⟨⟨id, recording, latest, rfl⟩, isSince_entry_iff.2 ⟨own, later⟩⟩

end Runs

/-- Two deletions of posts, one of them named twice, and the later deletion of an author under an
identifier of theirs. -/
def sharedIds : List Recording :=
  [⟨"author", ⟨4⟩, [⟨1⟩]⟩, ⟨"post", ⟨3⟩, [⟨1⟩, ⟨2⟩, ⟨1⟩]⟩]

/-- Of the two posts, the journal has an entry of the one that shares no identifier. -/
theorem holds_latest_sharedIds :
    ∃ store, Run defaultJournal store sharedIds ∧
      ∃ documents,
        (deletedSince Store.backend defaultJournal "post" ⟨3⟩).on store = (.ok documents, store) ∧
        entry "post" ⟨3⟩ ⟨2⟩ ∈ documents ∧ entry "post" ⟨3⟩ ⟨1⟩ ∉ documents := by
  have start : Run defaultJournal .empty [] := .start rfl
  have run : Run defaultJournal _ sharedIds := (start.record _).record _
  obtain ⟨_, _, _, since⟩ := run.holds_latest
  obtain ⟨documents, answered, _, exactly⟩ := since "post" ⟨3⟩
  refine ⟨_, run, documents, answered, (exactly _).2 ⟨⟨2⟩, _, rfl, rfl, by decide, rfl⟩, ?_⟩
  intro there
  obtain ⟨id, recording, latest, own, _, same⟩ := (exactly _).1 there
  have named : id = ⟨1⟩ := Option.some.inj (congrArg Document.id? same)
  have last : latest? sharedIds ⟨1⟩ = some ⟨"author", ⟨4⟩, [⟨1⟩]⟩ := rfl
  rw [named, last] at latest
  cases latest
  exact absurd own (by decide)

end DocumentQuery.Journal
