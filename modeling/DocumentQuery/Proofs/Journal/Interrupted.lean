import DocumentQuery.Proofs.Backend.Trace
import DocumentQuery.Proofs.Journal.Recorded

/-! Deletions that break off. A deletion removes its documents in one call and records their
identifiers one by one, without a way back. Which calls that takes depends on the entries that are
already there. The first call that is refused ends it: the identifiers in front are recorded, and
only the entry that was being replaced can be lost.
-/

set_option autoImplicit false

namespace DocumentQuery

open Observed

namespace Journal

/-- The calls that record a deletion. An entry that is in the way refuses the first of them, is
removed, and makes room for the last. -/
def recording (journal : String) (taken : Bool) (id : ObjectId) : List Call :=
  .insert journal 1 :: if taken then [.delete journal [id], .insert journal 1] else []

/-- The calls that record some deletions, each of which leaves an entry. -/
def recordings (journal : String) (taken : ObjectId → Bool) : List ObjectId → List Call
  | [] => []
  | id :: rest =>
    recording journal (taken id) id ++
      recordings journal (fun other => other = id || taken other) rest

/-- Some of the calls that record a deletion have been made, of which the last did nothing. The
earlier entry is lost if that one was to follow its removal. -/
structure Strikes (before after : Store) (journal : String) (id : ObjectId) (calls : List Call) :
    Prop where
  called : calls ≠ []
  front : calls <+: recording journal ((before.shelf journal).contains id) id
  contents : ∀ collection other, (after.shelf collection).get? other =
    if journal = collection ∧ other = id ∧ calls = recording journal true id then none
    else (before.shelf collection).get? other

/-- Recording deletions leaves the journal its entries, unless the removal of the documents took
some that are not recorded. -/
theorem Records.contains {before after : Store} {name journal : String} {now : Timestamp}
    {ids done : List ObjectId}
    (recorded : Records (before.delete name ids) after journal name now done)
    (covered : name = journal → ids ⊆ done) {id : ObjectId}
    (there : (before.shelf journal).contains id = true) :
    (after.shelf journal).contains id = true := by
  rw [SortedMap.contains, recorded]
  by_cases listed : id ∈ done
  · rw [if_pos ⟨rfl, listed⟩]
    rfl
  · rw [if_neg fun both => listed both.2, Store.get?_shelf_delete,
      if_neg fun both => listed (covered both.1 both.2)]
    exact there

section Steps

variable (refuses : List Call → Call → Bool) (before : Observed Store) (journal model : String)
  (now : Timestamp)

theorem on_insert_entry (id : ObjectId) :
    ((Store.observed refuses).insert [entry model now id] journal).on before =
      if refuses before.calls (.insert journal 1) then
        (.error (.backend (journal ++ " is unavailable")),
          ⟨before.inner, .insert journal 1 :: before.calls⟩)
      else ((before.inner.insert journal [entry model now id]).1,
        ⟨(before.inner.insert journal [entry model now id]).2,
          .insert journal 1 :: before.calls⟩) :=
  Observed.on_call refuses _ _ before

theorem on_delete (ids : List ObjectId) (collection : String) :
    ((Store.observed refuses).delete ids collection).on before =
      if refuses before.calls (.delete collection ids) then
        (.error (.backend (collection ++ " is unavailable")),
          ⟨before.inner, .delete collection ids :: before.calls⟩)
      else (.ok (), ⟨before.inner.delete collection ids, .delete collection ids :: before.calls⟩) :=
  Observed.on_call refuses _ _ before

/-- Replacing an entry makes both calls, or one of them is refused. The earlier entry is lost if it
is the second one. -/
theorem replace_observed (id : ObjectId) :
    ∃ calls result after,
      (do
        (Store.observed refuses).delete [id] journal
        (Store.observed refuses).insert [entry model now id] journal).on before =
          (result, after) ∧
      Makes refuses before calls (result, after) ∧
      ((result = .ok () ∧ calls = [.delete journal [id], .insert journal 1] ∧
          Records before.inner after.inner journal model now [id]) ∨
        (result = .error (.backend (journal ++ " is unavailable")) ∧
          calls <+: [.delete journal [id], .insert journal 1] ∧
          ∀ collection other, (after.inner.shelf collection).get? other =
            if journal = collection ∧ other = id ∧
              calls = [.delete journal [id], .insert journal 1] then none
            else (before.inner.shelf collection).get? other)) := by
  simp only [Action.on_bind, on_delete]
  cases first : refuses before.calls (.delete journal [id]) with
  | true =>
    refine ⟨[.delete journal [id]], _, _, rfl, ⟨rfl, .refused first⟩,
      .inr ⟨rfl, ⟨[.insert journal 1], rfl⟩, ?_⟩⟩
    intro collection other
    rw [if_neg (by simp)]
  | false =>
    -- From here on the earlier entry is gone until the new one is in place.
    simp only [Bool.false_eq_true, if_false, on_insert_entry]
    cases second : refuses (.delete journal [id] :: before.calls) (.insert journal 1) with
    | true =>
      refine ⟨_, _, _, rfl, ⟨rfl, .cons first (.refused second)⟩,
        .inr ⟨rfl, List.prefix_rfl, ?_⟩⟩
      intro collection other
      simp only [Store.get?_shelf_delete, List.mem_singleton, and_true]
    | false =>
      obtain ⟨after, inserted, recorded⟩ := insert_cleared before.inner journal model now id
      rw [if_neg Bool.false_ne_true, inserted]
      exact ⟨_, _, _, rfl, ⟨rfl, .cons first (.cons second .nil)⟩, .inl ⟨rfl, rfl, recorded⟩⟩

/-- Recording a deletion makes its calls and puts the entry in place, or one of them is refused. -/
theorem recordOne_observed (id : ObjectId) :
    ∃ calls result after,
      (recordOne (Store.observed refuses) journal model now id).on before = (result, after) ∧
      Makes refuses before calls (result, after) ∧
      ((result = .ok () ∧ calls = recording journal ((before.inner.shelf journal).contains id) id ∧
          Records before.inner after.inner journal model now [id]) ∨
        (result = .error (.backend (journal ++ " is unavailable")) ∧
          Strikes before.inner after.inner journal id calls)) := by
  rw [recordOne, Action.on_tryCatch, on_insert_entry]
  cases first : refuses before.calls (.insert journal 1) with
  | true =>
    refine ⟨[.insert journal 1], _, _, rfl, ⟨rfl, .refused first⟩, .inr ⟨rfl, by simp, ?_, ?_⟩⟩
    · exact List.prefix_append _ _
    · intro collection other
      simp [recording]
  | false =>
    rw [if_neg Bool.false_ne_true]
    cases taken : (before.inner.shelf journal).get? id with
    | none =>
      have free : (before.inner.shelf journal).contains id = false := by
        rw [SortedMap.contains, taken]
        rfl
      obtain ⟨after, inserted, recorded⟩ := insert_free model now taken
      rw [inserted, free]
      exact ⟨_, _, _, rfl, ⟨rfl, .cons first .nil⟩, .inl ⟨rfl, rfl, recorded⟩⟩
    | some old =>
      have there : (before.inner.shelf journal).contains id = true := by
        rw [SortedMap.contains, taken]
        rfl
      rw [Store.insert_taken (id?_entry model now id) taken, there]
      obtain ⟨calls, result, after, run, makes, outcome⟩ := replace_observed refuses
        ⟨before.inner.createCollection journal, .insert journal 1 :: before.calls⟩ journal model
        now id
      refine ⟨.insert journal 1 :: calls, result, after, run, .cons first makes, ?_⟩
      rcases outcome with ⟨rfl, rfl, recorded⟩ | ⟨failed, front, contents⟩
      · exact .inl ⟨rfl, rfl, records_createCollection.1 recorded⟩
      · refine .inr ⟨failed, List.cons_ne_nil _ _, ?_, fun collection other => ?_⟩
        · rw [there]
          exact (List.prefix_cons_inj _).2 front
        · rw [contents, Store.shelf_createCollection]
          simp [recording]

/-- Recording some deletions makes the calls of each, or it breaks off with one of them when those
in front of it have been recorded. -/
theorem record_observed (ids : List ObjectId) :
    ∃ calls result after,
      (record (Store.observed refuses) journal model now ids).on before = (result, after) ∧
      Makes refuses before calls (result, after) ∧
      ((result = .ok () ∧ calls = recordings journal (before.inner.shelf journal).contains ids ∧
          Records before.inner after.inner journal model now ids) ∨
        (result = .error (.backend (journal ++ " is unavailable")) ∧
          ∃ done struck rest last between, ids = done ++ struck :: rest ∧
            calls = recordings journal (before.inner.shelf journal).contains done ++ last ∧
            Records before.inner between journal model now done ∧
            Strikes between after.inner journal struck last)) := by
  induction ids generalizing before with
  | nil => exact ⟨[], _, _, rfl, ⟨rfl, .nil⟩, .inl ⟨rfl, rfl, by simp [Records]⟩⟩
  | cons id rest ih =>
    obtain ⟨calls, result, between, first, makes, ⟨rfl, rfl, one⟩ | ⟨rfl, strikes⟩⟩ :=
      recordOne_observed refuses before journal model now id
    · have taken : (between.inner.shelf journal).contains =
          fun other => other = id || (before.inner.shelf journal).contains other := by
        funext other
        rw [SortedMap.contains, one]
        by_cases same : other = id <;> simp [same, SortedMap.contains]
      obtain ⟨more, result, after, others, makes', outcome⟩ := ih between
      rw [taken] at outcome
      refine ⟨_, result, after, ?_, makes.trans makes', ?_⟩
      · rw [record, Action.on_bind, first]
        exact others
      · rcases outcome with ⟨rfl, rfl, all⟩ |
          ⟨failed, done, struck, rest, last, reached, rfl, rfl, front, strikes⟩
        · exact .inl ⟨rfl, rfl, one.trans all⟩
        · exact .inr ⟨failed, id :: done, struck, rest, last, reached, rfl,
            (List.append_assoc _ _ _).symm, one.trans front, strikes⟩
    · refine ⟨calls, _, _, ?_, makes, .inr ⟨rfl, [], id, rest, calls, before.inner, rfl, rfl, ?_,
        strikes⟩⟩
      · rw [record, Action.on_bind, first]
      · simp [Records]

end Steps

end Journal

namespace Collection

open Journal

/-- A deletion calls the store to remove the documents, and then to record their identifiers one by
one. It succeeds when none of its calls is refused: then the journal has an entry of every
identifier, and each entry that it had. Where the removal is refused, nothing has changed. Where
another call is refused, that is the last one; the list divides into the identifiers whose calls
were all made, which are recorded, the one that the refused call was for, and others. Unless the
documents are entries themselves, no entry is missing but that of the identifier struck, and only if
the refused call was to follow its removal. -/
theorem delete_entries (schema : Schema) (journal : String) (refuses : List Call → Call → Bool)
    (now : Timestamp) (ids : List ObjectId) (before : Observed Store) :
    let removed := before.inner.delete schema.name ids
    let taken := (removed.shelf journal).contains
    ∃ calls result after,
      ((⟨schema, Store.observed refuses, journal⟩ : Collection (Observed Store)).delete now ids).on
        before = (result, after) ∧
      Makes refuses before (.delete schema.name ids :: calls) (result, after) ∧
      ((result = .ok () ∧ calls = recordings journal taken ids ∧
          Records removed after.inner journal schema.name now ids ∧
          (∀ id ∈ ids,
            (after.inner.shelf journal).get? id = some (entry schema.name now id)) ∧
          ∀ id, (before.inner.shelf journal).contains id = true →
            (after.inner.shelf journal).contains id = true) ∨
        (result = .error (.backend (schema.name ++ " is unavailable")) ∧ calls = [] ∧
          after.inner = before.inner) ∨
        (result = .error (.backend (journal ++ " is unavailable")) ∧
          ∃ done struck rest last between, ids = done ++ struck :: rest ∧
            calls = recordings journal taken done ++ last ∧
            Records removed between journal schema.name now done ∧
            Strikes between after.inner journal struck last ∧
            ∀ id, ¬(id = struck ∧ last = recording journal true struck) →
              (id ∈ done →
                (after.inner.shelf journal).get? id = some (entry schema.name now id)) ∧
              (schema.name ≠ journal → (before.inner.shelf journal).contains id = true →
                (after.inner.shelf journal).contains id = true))) := by
  intro removed taken
  rw [delete, Action.on_bind, name, on_delete]
  cases refused : refuses before.calls (.delete schema.name ids) with
  | true => exact ⟨[], _, _, rfl, ⟨rfl, .refused refused⟩, .inr (.inl ⟨rfl, rfl, rfl⟩)⟩
  | false =>
    obtain ⟨calls, result, after, run, makes, outcome⟩ := record_observed refuses
      ⟨removed, .delete schema.name ids :: before.calls⟩ journal schema.name now ids
    refine ⟨calls, result, after, run, .cons refused makes, ?_⟩
    rcases outcome with ⟨rfl, made, recorded⟩ |
      ⟨failed, done, struck, rest, last, between, divided, made, recorded, strikes⟩
    · refine .inl ⟨rfl, made, recorded, fun id there => ?_, fun id there => ?_⟩
      · rw [recorded, if_pos ⟨rfl, there⟩]
      · exact recorded.contains (fun _ => List.Subset.refl ids) there
    · refine .inr (.inr ⟨failed, done, struck, rest, last, between, divided, made, recorded,
        strikes, fun id spared => ?_⟩)
      have same : (after.inner.shelf journal).get? id = (between.shelf journal).get? id := by
        rw [strikes.contents, if_neg fun all => spared all.2]
      refine ⟨fun there => ?_, fun apart there => ?_⟩
      · rw [same, recorded, if_pos ⟨rfl, there⟩]
      · rw [SortedMap.contains, same]
        exact recorded.contains (fun same => absurd same apart) there

def admitted : Store :=
  (Store.empty.insert "user" [[(idKey, .objectId ⟨1⟩)]]).2

def readmitted : Store :=
  (admitted.insert defaultJournal [entry "user" ⟨0⟩ ⟨1⟩]).2

def usersRefusing (refuses : List Call → Call → Bool) : Collection (Observed Store) :=
  ⟨⟨"user", []⟩, Store.observed refuses, defaultJournal⟩

/-- The refused insertion was to follow the removal of the first user's earlier entry. The second
user is recorded before it, and the third one is not reached. -/
theorem delete_entries_readmitted :
    ∃ result after,
      ((usersRefusing fun earlier call => call = .insert defaultJournal 1 ∧
        .delete defaultJournal [⟨1⟩] ∈ earlier).delete ⟨5⟩ [⟨2⟩, ⟨1⟩, ⟨3⟩]).on ⟨readmitted, []⟩ =
          (result, after) ∧
      Makes (fun earlier call => call = .insert defaultJournal 1 ∧
          .delete defaultJournal [⟨1⟩] ∈ earlier) ⟨readmitted, []⟩
        (.delete "user" [⟨2⟩, ⟨1⟩, ⟨3⟩] ::
          (recording defaultJournal false ⟨2⟩ ++ recording defaultJournal true ⟨1⟩))
        (result, after) ∧
      result = .error (.backend "deletejournal is unavailable") ∧
      (after.inner.shelf defaultJournal).get? ⟨2⟩ = some (entry "user" ⟨5⟩ ⟨2⟩) ∧
      (after.inner.shelf defaultJournal).get? ⟨1⟩ = none ∧
      (after.inner.shelf defaultJournal).get? ⟨3⟩ = none := by
  obtain ⟨calls, result, after, run, makes, _⟩ := delete_entries ⟨"user", []⟩ defaultJournal
    (fun earlier call => call = .insert defaultJournal 1 ∧ .delete defaultJournal [⟨1⟩] ∈ earlier)
    ⟨5⟩ [⟨2⟩, ⟨1⟩, ⟨3⟩] ⟨readmitted, []⟩
  refine ⟨result, after, run, ?_⟩
  cases run
  have made := congrArg List.reverse makes.noted
  rw [List.append_nil, List.reverse_reverse] at made
  cases made
  exact ⟨makes, rfl, rfl, rfl, rfl⟩

/-- When every insertion fails, the user is gone without an entry. When only an insertion after a
removal from the journal fails, the entry of the earlier deletion is gone too. -/
theorem delete_loses_entries :
    ((admitted.shelf "user").contains ⟨1⟩ = true ∧ ∃ detail after,
      ((usersRefusing fun _ call => call = .insert defaultJournal 1).delete ⟨5⟩ [⟨1⟩]).on
        ⟨admitted, []⟩ = (.error (.backend detail), after) ∧
      (after.inner.shelf "user").get? ⟨1⟩ = none ∧
      (after.inner.shelf defaultJournal).get? ⟨1⟩ = none) ∧
    (readmitted.shelf defaultJournal).contains ⟨1⟩ = true ∧ ∃ detail after,
      ((usersRefusing fun earlier call => call = .insert defaultJournal 1 ∧
        .delete defaultJournal [⟨1⟩] ∈ earlier).delete ⟨5⟩ [⟨1⟩]).on ⟨readmitted, []⟩ =
          (.error (.backend detail), after) ∧
      (after.inner.shelf defaultJournal).get? ⟨1⟩ = none :=
  ⟨⟨rfl, _, _, rfl, rfl, rfl⟩, rfl, _, _, rfl, rfl⟩

end Collection

end DocumentQuery
