import DocumentQuery.Proofs.Population.Fetched
import DocumentQuery.Proofs.Population.Identity
import DocumentQuery.Proofs.Population.Meaning
import DocumentQuery.Proofs.Projection.Identifier

/-! Population of a path against its meaning. Identifiers are gathered from a value and
from the elements of an array, and replaced at any depth. So a path is populated as it
is meant to be exactly when every stored identifier within deeper arrays is also found,
in some document of the list, where identifiers are gathered.
-/

set_option autoImplicit false

namespace DocumentQuery.Population

/-- The document that is to stand for an identifier: the selected part of the stored one. -/
def referent? (store : Store) (target : String) (projection : Option Projection) (id : ObjectId) :
    Option Document :=
  ((store.shelf target).get? id).map (Projection.applyTo projection)

def populated (store : Store) (path : Path) (target : String) (projection : Option Projection)
    (locale : Option String) (document : Document) : Document :=
  document.modifyAt
    (·.mapIdentifiers (Value.resolved (referent? store target projection) locale)) path

theorem eq_of_id?_applyTo {store : Store} (keyed : store.Keyed) {target : String}
    {projection : Option Projection} {stored : Document} {key id : ObjectId}
    (under : (store.shelf target).get? key = some stored)
    (named : (Projection.applyTo projection stored).id? = some id) : key = id := by
  have whole := Projection.id?_of_applyTo named
  rw [keyed target key stored under] at whole
  exact Option.some.inj whole

/-- The referents of a path are those of the identifiers gathered there, unless the selection takes
their identifiers. -/
theorem get?_referentsIn_eq {store : Store} (keyed : store.Keyed) (documents : List Document)
    (path : Path) (target : String) (projection : Option Projection) (id : ObjectId) :
    (referentsIn store documents path target projection).get? id =
      if id ∈ gathered documents path then
        (referent? store target projection id).filter (·.id?.isSome)
      else none := by
  cases found : (referentsIn store documents path target projection).get? id with
  | some referent =>
    obtain ⟨there, named⟩ := get?_referentsOf found
    obtain ⟨key, asked, stored, under, rfl⟩ := Store.mem_get.1 there
    obtain rfl := eq_of_id?_applyTo keyed under named
    rw [if_pos asked, referent?, under, Option.map_some, Option.filter_some, named]
    rfl
  | none =>
    split
    · rename_i asked
      cases stored : (store.shelf target).get? id with
      | none => rw [referent?, stored, Option.map_none, Option.filter_none]
      | some document =>
        rw [referent?, stored, Option.map_some, Option.filter_some]
        cases named : (Projection.applyTo projection document).id? with
        | none => rfl
        | some key =>
          obtain rfl := eq_of_id?_applyTo keyed stored named
          -- The stored document was fetched under its own identifier.
          have fetched : Projection.applyTo projection document ∈
              store.get target (gathered documents path) projection :=
            Store.mem_get.2 ⟨id, asked, document, stored, rfl⟩
          obtain ⟨referent, there⟩ := exists_get?_referentsOf fetched named
          rw [referentsIn, there] at found
          cases found
    · rfl

theorem get?_referentsIn {store : Store} (keyed : store.Keyed) (documents : List Document)
    (path : Path) (target : String) {projection : Option Projection}
    (keeps : Projection.KeepsId projection) (id : ObjectId) :
    (referentsIn store documents path target projection).get? id =
      if id ∈ gathered documents path then referent? store target projection id else none := by
  have kept : (referent? store target projection id).filter (·.id?.isSome) =
      referent? store target projection id := by
    rw [referent?]
    cases stored : (store.shelf target).get? id with
    | none => rfl
    | some document =>
      rw [Option.map_some, Option.filter_some,
        Projection.id?_applyTo keeps (keyed target id document stored)]
      rfl
  rw [get?_referentsIn_eq keyed, kept]

/-- A gathered identifier is replaced as it is meant to be; any other stays, which is right only
when there is no document for it. -/
theorem resolved_referentsIn_iff {store : Store} (keyed : store.Keyed) (documents : List Document)
    (path : Path) (target : String) {projection : Option Projection}
    (keeps : Projection.KeepsId projection) (locale : Option String) (id : ObjectId) :
    Value.resolved (referentsIn store documents path target projection).get? locale id =
        Value.resolved (referent? store target projection) locale id ↔
      ((store.shelf target).contains id = true →
        ∃ document ∈ documents, id ∈ document.referencesAt path) := by
  rw [Value.resolved, Value.resolved, get?_referentsIn keyed documents path target keeps,
    SortedMap.contains, referent?, ← mem_gathered]
  cases (store.shelf target).get? id with
  | none => simp
  | some stored =>
    by_cases asked : id ∈ gathered documents path
    · simp [asked]
    · simp [asked, Value.inserted]

/-- A path is populated as it is meant to be exactly when every stored identifier there, at any
depth of arrays, is among the gathered ones of some document of the list. -/
theorem expand_exactly {store : Store} (reachable : store.Reachable) (documents : List Document)
    (path : Path) (target : String) {projection : Option Projection}
    (keeps : Projection.KeepsId projection) (locale : Option String) :
    ∃ count expanded,
      (expand Store.backend documents path target projection locale).on store =
        (.ok (count, expanded), store) ∧
      (expanded = documents.map (populated store path target projection locale) ↔
        ∀ document ∈ documents, ∀ id ∈ document.identifiersAt path,
          (store.shelf target).contains id = true →
            ∃ other ∈ documents, id ∈ other.referencesAt path) := by
  refine ⟨_, _, expand_on store documents path target projection locale, ?_⟩
  rw [List.map_inj_left]
  refine forall₂_congr fun document _ => ?_
  rw [populated, ← Document.resolveAt_eq_modifyAt, Document.resolveAt_eq_iff]
  exact forall₂_congr fun id _ =>
    resolved_referentsIn_iff reachable.keyed documents path target keeps locale id

def user : Document :=
  [(idKey, .objectId ⟨1⟩), ("name", .string "a")]

def users : Store :=
  (Store.empty.insert "user" [user]).2

def tagged : Document :=
  [("tags", .objectId ⟨1⟩)]

def nested : Document :=
  [("tags", .array [.array [.objectId ⟨1⟩]])]

/-- The nested identifier is replaced since another document holds it openly. -/
theorem expand_exactly_users : users.Reachable ∧ Projection.KeepsId none ∧
    ∃ count, (expand Store.backend [tagged, nested] ["tags"] "user" none none).on users =
      (.ok (count, [tagged, nested].map (populated users ["tags"] "user" none none)), users) := by
  have reachable : users.Reachable := .insert "user" [user] .empty
  have keeps : Projection.KeepsId none := nofun
  refine ⟨reachable, keeps, ?_⟩
  obtain ⟨count, expanded, run, meant⟩ :=
    expand_exactly reachable [tagged, nested] ["tags"] "user" keeps none
  have gathers : ∀ document ∈ [tagged, nested], ∀ id ∈ document.identifiersAt ["tags"],
      (users.shelf "user").contains id = true →
        ∃ other ∈ [tagged, nested], id ∈ other.referencesAt ["tags"] := by
    intro document there id held _
    have same : id = ⟨1⟩ := by
      rcases List.mem_cons.1 there with rfl | there
      · exact List.mem_singleton.1 held
      · cases List.mem_singleton.1 there
        exact List.mem_singleton.1 held
    exact ⟨tagged, List.mem_cons_self, same ▸ List.mem_cons_self⟩
  exact ⟨count, meant.2 gathers ▸ run⟩

/-- By itself the nested identifier stays, although the user is stored. -/
theorem expand_misses_nested :
    (expand Store.backend [nested] ["tags"] "user" none none).on users =
        (.ok (0, [nested]), users) ∧
      populated users ["tags"] "user" none none nested =
        [("tags", .array [.array [.document user]])] ∧
      (expand Store.backend [nested, tagged] ["tags"] "user" none none).on users =
        (.ok (1, [nested, tagged].map (populated users ["tags"] "user" none none)), users) :=
  ⟨rfl, rfl, rfl⟩

end DocumentQuery.Population
