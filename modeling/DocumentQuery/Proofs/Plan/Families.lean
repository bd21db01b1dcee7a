import DocumentQuery.Proofs.Action
import DocumentQuery.Proofs.Parameters.Brackets
import DocumentQuery.Proofs.Plan.Compiled
import DocumentQuery.Proofs.Schema.Registered
import Mathlib.Data.List.Infix

/-! Families of parameters. A name belongs to one family at most, so it makes no difference in
which order the stages of compilation take their families, nor how the families are mixed in a
request: a plan depends on the parameters of each family, and the others are handed back.
-/

set_option autoImplicit false

namespace DocumentQuery

inductive Family where
  | limit
  | skip
  | sort
  | deepPaths
  | references
  | filters
  deriving DecidableEq, Repr

namespace Family

def name? : Family → Option String
  | .limit => some "limit"
  | .skip => some "skip"
  | .sort => some "sort"
  | .deepPaths => some "populatedeep"
  | .references | .filters => none

def owns : Family → String → Bool
  | .limit, name => name == "limit"
  | .skip, name => name == "skip"
  | .sort, name => name == "sort"
  | .deepPaths, name => name == "populatedeep"
  | .references, name => Parameters.inFamily Population.root name
  | .filters, name => Parameters.inFamily Filter.root name

/-- The families that the stages take. Deep paths are taken before them. -/
def staged : List Family :=
  [.limit, .skip, .references, .sort, .filters]

end Family

namespace Parameters

def of (parameters : Parameters) (family : Family) : Parameters :=
  parameters.filter (family.owns ·.1)

def besides (parameters : Parameters) (family : Family) : Parameters :=
  parameters.filter (! family.owns ·.1)

theorem prefix_of_inFamily {root name : String} (member : inFamily root name = true) :
    root.toList <+: name.toList := by
  obtain ⟨segments, read⟩ := Option.isSome_iff_exists.1 member
  obtain ⟨rest, rfl⟩ := eq_append_of_segments? read
  exact ⟨rest.toList, String.toList_append.symm⟩

end Parameters

namespace Family

theorem owns_iff {family : Family} {own name : String} (single : family.name? = some own) :
    family.owns name = true ↔ name = own := by
  cases family <;> cases single <;> exact beq_iff_eq

theorem eq_of_owns_name {family other : Family} {own : String} (single : family.name? = some own)
    (owned : other.owns own = true) : other = family := by
  revert owned
  cases family <;> cases single <;> cases other <;> decide

theorem not_both_rooted {name : String} (first : owns .references name = true)
    (second : owns .filters name = true) : False := by
  rcases List.prefix_or_prefix_of_prefix (Parameters.prefix_of_inFamily first)
    (Parameters.prefix_of_inFamily second) with inside | inside
  · exact absurd inside (by decide)
  · exact absurd inside (by decide)

/-- A name belongs to one family at most. -/
theorem eq_of_owns {family other : Family} {name : String} (first : family.owns name = true)
    (second : other.owns name = true) : family = other := by
  cases single : family.name? with
  | some own =>
    rw [(owns_iff single).1 first] at second
    exact (eq_of_owns_name single second).symm
  | none =>
    cases single' : other.name? with
    | some own =>
      rw [(owns_iff single').1 second] at first
      exact eq_of_owns_name single' first
    | none =>
      cases family <;> cases single <;> cases other <;> cases single'
      · rfl
      · exact (not_both_rooted first second).elim
      · exact (not_both_rooted second first).elim
      · rfl

end Family

namespace Parameters

variable (parameters : Parameters)

theorem of_besides {family other : Family} (apart : family ≠ other) :
    (parameters.besides other).of family = parameters.of family := by
  rw [of, besides, List.filter_filter]
  refine List.filter_congr fun parameter _ => ?_
  cases owned : family.owns parameter.1 with
  | false => rfl
  | true =>
    cases owned' : other.owns parameter.1 with
    | false => rfl
    | true => exact absurd (Family.eq_of_owns owned owned') apart

theorem foldl_besides (families : List Family) :
    families.foldl besides parameters =
      parameters.filter fun parameter => families.all fun family => ! family.owns parameter.1 := by
  induction families generalizing parameters with
  | nil => simp
  | cons family rest ih =>
    rw [List.foldl_cons, ih, besides, List.filter_filter]
    exact List.filter_congr fun _ _ => Bool.and_comm _ _

theorem take_eq (family : Family) {own : String} (single : family.name? = some own) :
    parameters.take own = ((parameters.of family).map (·.2), parameters.besides family) := by
  cases family <;> cases single <;> rfl

theorem takeFamily_references :
    parameters.takeFamily Population.root =
      (parameters.of .references, parameters.besides .references) := rfl

theorem takeFamily_filters :
    parameters.takeFamily Filter.root = (parameters.of .filters, parameters.besides .filters) := rfl

end Parameters

namespace Plan

def Reading.ofFamilies (settings : Settings) (of : Family → Parameters) : Reading where
  page :=
    { skip := (Page.number? ((of .skip).map (·.2))).getD 0
      limit := Page.bounded settings (Page.number? ((of .limit).map (·.2))) }
  references := of .references
  sorts := (of .sort).map (·.2)
  filters := of .filters
  deep := (of .deepPaths).map (·.2)

/-- Compilation reads the parameters of each family, whatever stands between them. -/
theorem Reading.ofParameters_eq (settings : Settings) (parameters : Parameters) :
    ofParameters settings parameters = ofFamilies settings parameters.of := by
  simp only [ofParameters, Page.extract, Parameters.take_eq _ .deepPaths rfl,
    Parameters.take_eq _ .limit rfl, Parameters.take_eq _ .skip rfl,
    Parameters.take_eq _ .sort rfl, Parameters.takeFamily_references,
    Parameters.takeFamily_filters, Parameters.of_besides, ne_eq, reduceCtorEq, not_false_eq_true,
    ofFamilies]

/-- Stages that succeed hand back the parameters that are of none of their families. -/
theorem rest_of_applyStages {registry : Registry} {settings : Settings} {schema : Schema}
    {locale : String} {parameters rest : Parameters} {draft finished : Draft}
    (applied : applyStages registry settings schema locale parameters draft =
      .ok (finished, rest)) :
    rest = parameters.filter fun parameter =>
      Family.staged.all fun family => ! family.owns parameter.1 := by
  obtain ⟨clauses, _, same⟩ := ok_of_bind applied
  cases same
  exact parameters.foldl_besides Family.staged

/-- Requests whose parameters agree family by family have the same plan or are refused alike,
however their families are mixed and whatever else they carry. And stages that succeed hand back
exactly the parameters of no family of theirs, in order. -/
theorem compile_families (registry : Registry) (settings : Settings) :
    (∀ collection context (first second : Parameters),
      (∀ family, first.of family = second.of family) →
      compile registry settings collection first context =
        compile registry settings collection second context) ∧
    ∀ schema locale parameters draft finished rest,
      applyStages registry settings schema locale parameters draft = .ok (finished, rest) →
      rest = parameters.filter fun parameter =>
        Family.staged.all fun family => ! family.owns parameter.1 := by
  constructor
  · intro collection context first second same
    rw [compile_eq, compile_eq, Reading.ofParameters_eq, Reading.ofParameters_eq,
      show first.of = second.of from funext same]
  · intro schema locale parameters draft finished rest applied
    exact rest_of_applyStages applied

/-- A request for journal entries whose families are mixed, with a name that is of no family since
its bracket is never closed. -/
def mixedRequest : Parameters :=
  [("filter[deleted", "x"), ("limit", "5"), ("populate[model]", "a"),
    ("filter[-deleted]", ">2020-01-01"), ("limit", "7"), ("sort", "deleted:desc"),
    ("populatedeep", "model")]

def groupedRequest : Parameters :=
  [("sort", "deleted:desc"), ("limit", "5"), ("limit", "7"), ("populatedeep", "model"),
    ("other", "1"), ("populate[model]", "a"), ("filter[-deleted]", ">2020-01-01")]

theorem compile_families_journal :
    (∀ family, mixedRequest.of family = groupedRequest.of family) ∧
      compile .bare {} defaultJournal mixedRequest {} =
        compile .bare {} defaultJournal groupedRequest {} ∧
      ∃ finished, applyStages .bare {} (.journal defaultJournal) "en" mixedRequest {} =
        .ok (finished, [("filter[deleted", "x"), ("populatedeep", "model")]) := by
  obtain ⟨alike, rest⟩ := compile_families .bare {}
  have same (family : Family) : mixedRequest.of family = groupedRequest.of family := by
    cases family <;> decide
  have succeeds : (applyStages .bare {} (.journal defaultJournal) "en" mixedRequest
      {}).toOption.isSome = true := by decide +kernel
  obtain ⟨⟨finished, left⟩, shown⟩ := Option.isSome_iff_exists.1 succeeds
  have applied := ok_of_toOption shown
  have left_eq : left = [("filter[deleted", "x"), ("populatedeep", "model")] :=
    (rest _ _ _ _ _ _ applied).trans (by decide)
  exact ⟨same, alike defaultJournal {} _ _ same, finished, left_eq ▸ applied⟩

end Plan

end DocumentQuery
