import DocumentQuery.Proofs.Population.Fetched
import DocumentQuery.Proofs.Population.Remainder
import Mathlib.Data.List.Forall2

/-! What population changes. Whatever a backend answers, a document comes out of a population as
it went in, key by key and element by element, except that identifiers at the places of the path
have become documents of the answer that carry them. Those that the answer has no document for
stay, and a population that fails changes nothing.
-/

set_option autoImplicit false

namespace DocumentQuery

inductive Step where
  | key (name : String)
  | element (index : Nat)

abbrev Place := List Step

/-- The places that a path leads to. On the way it goes through embedded documents and through the
documents of an array; from the value under its last key, it goes into arrays at any depth. -/
inductive Path.LeadsTo : Path → Place → Prop
  | last {key : String} (indices : List Nat) :
      LeadsTo [key] (.key key :: indices.map .element)
  | inside {key : String} {rest : Path} {place : Place} :
      LeadsTo rest place → LeadsTo (key :: rest) (.key key :: place)
  | across {key : String} {rest : Path} {place : Place} (index : Nat) :
      LeadsTo rest place → LeadsTo (key :: rest) (.key key :: .element index :: place)

/-- Which documents may stand for an identifier, place by place. -/
abbrev Fitting := Place → ObjectId → Document → Prop

def Fitting.behind (fits : Fitting) (step : Step) : Fitting :=
  fun place => fits (step :: place)

mutual

/-- The second value is the first one, but for identifiers that have become documents which fit
there. Arrays keep their length, and documents their keys with their order. -/
inductive Value.Filled : Fitting → Value → Value → Prop
  | kept {fits : Fitting} {value : Value} : Value.Filled fits value value
  | replaced {fits : Fitting} {id : ObjectId} {document : Document} :
      fits [] id document → Value.Filled fits (.objectId id) (.document document)
  | array {fits : Fitting} {items filled : List Value} :
      Value.FilledFrom fits 0 items filled → Value.Filled fits (.array items) (.array filled)
  | document {fits : Fitting} {fields filled : Document} :
      Document.Filled fits fields filled → Value.Filled fits (.document fields) (.document filled)

inductive Value.FilledFrom : Fitting → Nat → List Value → List Value → Prop
  | nil {fits : Fitting} {index : Nat} : Value.FilledFrom fits index [] []
  | cons {fits : Fitting} {index : Nat} {item result : Value} {rest results : List Value} :
      Value.Filled (fits.behind (.element index)) item result →
      Value.FilledFrom fits (index + 1) rest results →
      Value.FilledFrom fits index (item :: rest) (result :: results)

inductive Document.Filled : Fitting → Document → Document → Prop
  | nil {fits : Fitting} : Document.Filled fits [] []
  | cons {fits : Fitting} {name : String} {value result : Value} {rest results : Document} :
      Value.Filled (fits.behind (.key name)) value result →
      Document.Filled fits rest results →
      Document.Filled fits ((name, value) :: rest) ((name, result) :: results)

end

/-- A document as it is put in the place of its identifier, next to the document that was fetched:
the same, but for a stamp that names the locale, if there is one. -/
inductive Document.PlacedAs : Option String → Document → Document → Prop
  | plain {fetched : Document} : PlacedAs none fetched fetched
  | stamped {locale : String} {fetched : Document} :
      fetched.get? localeKey = none →
      PlacedAs (some locale) fetched (fetched ++ [(localeKey, .string locale)])
  | restamped {locale : String} {front back : Document} {old : Value} :
      front.get? localeKey = none →
      PlacedAs (some locale) (front ++ (localeKey, old) :: back)
        (front ++ (localeKey, .string locale) :: back)

/-- The second document is the first one after a population with an answer. -/
structure Document.PopulatedBy (answer : List Document) (locale : Option String) (path : Path)
    (document populated : Document) : Prop where
  /-- Nothing changes, but for identifiers at the path that become their own documents. -/
  filled : document.Filled (fun place id placed => path.LeadsTo place ∧
    ∃ fetched ∈ answer, fetched.id? = some id ∧ PlacedAs locale fetched placed) populated
  /-- The identifiers that are left at the path have no document in the answer. -/
  left : ∀ id ∈ populated.identifiersAt path, ∀ fetched ∈ answer, fetched.id? ≠ some id

/-- Each identifier stays, or becomes a document that fits. -/
def Value.Settles (fits : ObjectId → Document → Prop) (change : ObjectId → Value) : Prop :=
  ∀ id, change id = .objectId id ∨ ∃ document, change id = .document document ∧ fits id document

namespace Value

mutual

theorem filled_mapIdentifiers {fits : Fitting} {change : ObjectId → Value}
    (settles : ∀ indices : List Nat, Settles (fits (indices.map .element)) change)
    (value : Value) : Filled fits value (value.mapIdentifiers change) := by
  match value with
  | .objectId id =>
    rw [mapIdentifiers]
    rcases settles [] id with same | ⟨document, same, fit⟩
    · rw [same]
      exact .kept
    · rw [same]
      exact .replaced fit
  | .array items => exact .array (filledFrom_mapIdentifiersIn settles 0 items)
  | .document _ | .null | .undefined | .minKey | .maxKey | .bool _ | .int32 _ | .int64 _
  | .double _ | .string _ | .date _ | .sealed _ => exact .kept

theorem filledFrom_mapIdentifiersIn {fits : Fitting} {change : ObjectId → Value}
    (settles : ∀ indices : List Nat, Settles (fits (indices.map .element)) change)
    (start : Nat) (items : List Value) :
    FilledFrom fits start items (mapIdentifiersIn change items) := by
  match items with
  | [] => exact .nil
  | item :: rest =>
    exact .cons (filled_mapIdentifiers (fun indices => settles (start :: indices)) item)
      (filledFrom_mapIdentifiersIn settles (start + 1) rest)

end

/-- A change of the documents that a value offers to a path fills it, whether the value is such a
document or an array of them. -/
theorem filled_mapDocuments {fits : Fitting} {change : Document → Document}
    (alone : ∀ document, Document.Filled fits document (change document))
    (among : ∀ index document,
      Document.Filled (fits.behind (.element index)) document (change document))
    (value : Value) : Filled fits value (value.mapDocuments change) := by
  cases value with
  | document fields => exact .document (alone fields)
  | array items =>
    refine .array ?_
    generalize 0 = start
    induction items generalizing start with
    | nil => exact .nil
    | cons item rest ih =>
      refine .cons ?_ (ih (start + 1))
      cases item with
      | document fields => exact .document (among start fields)
      | _ => exact .kept
  | _ => exact .kept

end Value

namespace Document

theorem Filled.refl (fits : Fitting) (document : Document) :
    document.Filled fits document := by
  induction document with
  | nil => exact .nil
  | cons entry rest ih => exact .cons .kept ih

theorem filled_modify {fits : Fitting} {key : String} {change : Value → Value}
    (filled : ∀ value, Value.Filled (fits.behind (.key key)) value (change value))
    (document : Document) : document.Filled fits (document.modify key change) := by
  induction document with
  | nil => exact .nil
  | cons entry rest ih =>
    obtain ⟨name, value⟩ := entry
    rw [modify]
    split
    · rename_i here
      subst here
      exact .cons (filled value) (.refl fits rest)
    · exact .cons .kept ih

/-- A replacement of the identifiers at a path fills a document at the places the path leads to. -/
theorem filled_modifyAt {fits : Fitting} {change : ObjectId → Value} {path : Path}
    (settles : ∀ place, path.LeadsTo place → Value.Settles (fits place) change)
    (document : Document) :
    document.Filled fits (document.modifyAt (·.mapIdentifiers change) path) := by
  -- By induction on the path; what fits is general, as further keys are seen from behind a step.
  induction path generalizing fits document with
  | nil => exact .refl fits document
  | cons key rest ih =>
    cases rest with
    | nil =>
      exact filled_modify (Value.filled_mapIdentifiers fun indices => settles _ (.last indices)) _
    | cons next rest =>
      refine filled_modify (Value.filled_mapDocuments ?_ ?_) document
      · exact ih fun place leads => settles _ (.inside leads)
      · exact fun index => ih fun place leads => settles _ (.across index leads)

theorem set_cases (key : String) (value : Value) (document : Document) :
    (document.get? key = none ∧ document.set key value = document ++ [(key, value)]) ∨
      ∃ front old back, document = front ++ (key, old) :: back ∧ get? front key = none ∧
        document.set key value = front ++ (key, value) :: back := by
  induction document with
  | nil => exact .inl ⟨rfl, rfl⟩
  | cons entry rest ih =>
    obtain ⟨name, present⟩ := entry
    by_cases here : name = key
    · subst here
      exact .inr ⟨[], present, rest, rfl, rfl, by simp [set]⟩
    · rcases ih with ⟨absent, same⟩ | ⟨front, old, back, rfl, absent, same⟩
      · exact .inl ⟨by simp [get?, here, absent], by simp [set, here, same]⟩
      · refine .inr ⟨(name, present) :: front, old, back, rfl, ?_, ?_⟩
        · simp [get?, here, absent]
        · simp [set, here, same]

theorem exists_placedAs (locale : Option String) (referent : Document) :
    ∃ placed, Value.inserted locale referent = .document placed ∧
      PlacedAs locale referent placed := by
  cases locale with
  | none => exact ⟨referent, rfl, .plain⟩
  | some locale =>
    refine ⟨referent.set localeKey (.string locale), rfl, ?_⟩
    rcases set_cases localeKey (.string locale) referent with
      ⟨absent, same⟩ | ⟨front, old, back, rfl, absent, same⟩
    · rw [same]
      exact .stamped absent
    · rw [same]
      exact .restamped absent

end Document

namespace Population

/-- Resolving the identifiers at a path with the documents of an answer populates a document. -/
theorem populatedBy_resolveAt (answer : List Document) (locale : Option String) (path : Path)
    (document : Document) :
    document.PopulatedBy answer locale path
      (document.resolveAt (referentsOf answer).get? locale path) where
  filled := by
    rw [Document.resolveAt_eq_modifyAt]
    refine Document.filled_modifyAt (fun place leads id => ?_) document
    rw [Value.resolved]
    cases found : (referentsOf answer).get? id with
    | none => exact .inl rfl
    | some referent =>
      obtain ⟨there, named⟩ := get?_referentsOf found
      obtain ⟨placed, same, placedAs⟩ := Document.exists_placedAs locale referent
      exact .inr ⟨placed, same, leads, referent, there, named, placedAs⟩
  left := by
    intro id remains fetched there named
    rw [Document.identifiersAt_resolveAt, List.mem_filter] at remains
    obtain ⟨referent, found⟩ := exists_get?_referentsOf there named
    simp [found] at remains

section Runs

variable {σ : Type} (backend : Backend σ) (documents : List Document) (path : Path)
  (target : String) (projection : Option Projection)

/-- Population turns identifiers at a path into their own documents and changes nothing else,
whatever the backend answers; and it changes nothing at all when the backend fails. -/
theorem shallow_populates (locale : Option String) (state : σ) :
    ∃ run after,
      (shallow backend documents path target projection locale).run state = (run, after) ∧
      ((∃ error,
          (request backend documents path target projection).on state = (.error error, after) ∧
          run.outcome = .error error ∧ run.documents = documents) ∨
        ∃ answer count,
          (request backend documents path target projection).on state = (.ok answer, after) ∧
          run.outcome = .ok count ∧
          List.Forall₂ (Document.PopulatedBy answer locale path) documents run.documents) := by
  have fetched : (fetch backend documents path target projection).on state =
      (((request backend documents path target projection).on state).1.map referentsOf,
        ((request backend documents path target projection).on state).2) := by
    rw [fetch_eq_request, Action.on_map]
  rcases asked : (request backend documents path target projection).on state with
    ⟨error | answer, after⟩
  · rw [asked] at fetched
    exact ⟨_, after, run_shallow_of_error locale fetched, .inl ⟨error, rfl, rfl, rfl⟩⟩
  · rw [asked] at fetched
    refine ⟨_, after, run_shallow_of_ok locale fetched, .inr ⟨answer, _, rfl, rfl, ?_⟩⟩
    rw [List.forall₂_map_right_iff, List.forall₂_same]
    exact fun document _ => populatedBy_resolveAt answer locale path document

end Runs

end Population

end DocumentQuery
