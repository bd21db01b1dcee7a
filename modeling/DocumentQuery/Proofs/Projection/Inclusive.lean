import DocumentQuery.Proofs.Document.Copying
import DocumentQuery.Proofs.Projection.Exclusive
import DocumentQuery.Value.Equality

/-! What an inclusion keeps. The included paths are copied one after the other. A path that is
copied as a whole stays whole while later paths lead elsewhere; but a later path that goes on
through one of its arrays makes that array anew, without the elements that are no documents. So
whether an inclusion keeps all that it includes depends on which path comes last at each array
with such elements.
-/

set_option autoImplicit false

namespace DocumentQuery

theorem exists_append_cons_of_mem {α : Type} {a : α} {list : List α} (there : a ∈ list) :
    ∃ front back, list = front ++ a :: back ∧ a ∉ back := by
  obtain ⟨back, front, same, absent⟩ :=
    List.eq_append_cons_of_mem (List.mem_reverse.2 there)
  refine ⟨front.reverse, back.reverse, ?_, by simpa using absent⟩
  rw [← List.reverse_reverse list, same]
  simp

theorem eq_of_find?_find? {α : Type} {p q : α → Bool} {list : List α} {a b : α}
    (found : list.find? p = some a) (found' : list.find? q = some b) (holds : p b = true)
    (holds' : q a = true) : a = b := by
  induction list with
  | nil => cases found
  | cons first rest ih =>
    rw [List.find?_cons] at found found'
    cases here : p first with
    | true =>
      rw [here] at found
      cases found
      rw [holds'] at found'
      exact Option.some.inj found'
    | false =>
      cases there : q first with
      | true =>
        rw [there] at found'
        cases found'
        rw [here] at holds
        cases holds
      | false =>
        rw [here] at found
        rw [there] at found'
        exact ih found found'

namespace Path

/-- The last of some paths that lead to a place, to where it lies, or through it. -/
def lastAlong (paths : List Path) (place : Path) : Option Path :=
  paths.reverse.find? fun path => path.isPrefixOf place || place.isPrefixOf path

/-- If some of the paths lead to a place or to where it lies, then the last along it does. -/
def Settled (paths : List Path) (place : Path) : Prop :=
  (∃ path ∈ paths, path <+: place) → ∀ last ∈ lastAlong paths place, last <+: place

instance (paths : List Path) (place : Path) : Decidable (Settled paths place) :=
  inferInstanceAs (Decidable (_ → ∀ last ∈ lastAlong paths place, last <+: place))

theorem lastAlong_append (front back : List Path) (place : Path) :
    lastAlong (front ++ back) place = (lastAlong back place).or (lastAlong front place) := by
  rw [lastAlong, List.reverse_append, List.find?_append]
  rfl

theorem lastAlong_cons (path : Path) (paths : List Path) (place : Path) :
    lastAlong (path :: paths) place =
      (lastAlong paths place).or (lastAlong [path] place) :=
  lastAlong_append [path] paths place

theorem mem_of_lastAlong {paths : List Path} {place last : Path}
    (found : lastAlong paths place = some last) :
    last ∈ paths ∧ (last <+: place ∨ place <+: last) := by
  refine ⟨List.mem_reverse.1 (List.mem_of_find?_eq_some found), ?_⟩
  simpa using List.find?_some found

theorem exists_lastAlong {paths : List Path} {place path : Path} (there : path ∈ paths)
    (along : path <+: place ∨ place <+: path) : ∃ last, lastAlong paths place = some last := by
  refine Option.isSome_iff_exists.1 (List.find?_isSome.2 ⟨path, List.mem_reverse.2 there, ?_⟩)
  simpa using along

theorem lastAlong_below {paths : List Path} (proper : [] ∉ paths) (key : String) (place : Path) :
    lastAlong paths (key :: place) = (lastAlong (below key paths) place).map (key :: ·) := by
  induction paths with
  | nil => rfl
  | cons path paths ih =>
    obtain ⟨first, later⟩ := List.ne_and_not_mem_of_not_mem_cons proper
    rw [lastAlong_cons, ih later]
    rcases path with _ | ⟨name, rest⟩
    · exact absurd rfl first
    · by_cases same : name = key
      · subst same
        rw [below_cons_self, lastAlong_cons rest, Option.map_or]
        congr 1
        by_cases along : (rest.isPrefixOf place || place.isPrefixOf rest) = true <;>
          simp [lastAlong, along]
      · have elsewhere : lastAlong [name :: rest] (key :: place) = none := by
          simp [lastAlong, same, Ne.symm same]
        rw [below_cons_of_ne (by simpa using same), elsewhere, Option.or_none]

theorem exists_lastAlong_below {paths : List Path} {key : String} {place last : Path}
    (proper : [] ∉ paths) (along : lastAlong paths (key :: place) = some last)
    (through : ¬ last <+: key :: place) :
    ∃ rest, lastAlong (below key paths) place = some rest ∧ ¬ rest <+: place := by
  rw [lastAlong_below proper, Option.map_eq_some_iff] at along
  obtain ⟨rest, along, rfl⟩ := along
  exact ⟨rest, along, fun leads => through (List.cons_prefix_cons.2 ⟨rfl, leads⟩)⟩

theorem Settled.below {paths : List Path} {key : String} {place : Path} (proper : [] ∉ paths)
    (settled : Settled paths (key :: place)) : Settled (below key paths) place := by
  rintro ⟨path, there, leads⟩ last found
  have covered : ∃ path ∈ paths, path <+: key :: place :=
    ⟨key :: path, mem_below.1 there, List.cons_prefix_cons.2 ⟨rfl, leads⟩⟩
  have whole : key :: last ∈ lastAlong paths (key :: place) := by
    rw [lastAlong_below proper, found]
    rfl
  exact (List.cons_prefix_cons.1 (settled covered _ whole)).2

theorem settled_of_forall_mem {paths : List Path} (settled : ∀ path ∈ paths, Settled paths path)
    (place : Path) : Settled paths place := by
  rintro ⟨path, there, leads⟩ last along
  obtain ⟨ending, found⟩ := exists_lastAlong there (.inl List.prefix_rfl)
  have covers : ending <+: path := settled path there ⟨path, there, List.prefix_rfl⟩ ending found
  refine Decidable.byContradiction fun through => ?_
  have beyond : path <+: last := leads.trans ((mem_of_lastAlong along).2.resolve_left through)
  -- The last path along the one is along the other too, and therefore the same.
  have same : ending = last := eq_of_find?_find? found along (by simpa using .inr beyond)
    (by simpa using .inl (covers.trans leads))
  exact through (same ▸ covers.trans leads)

end Path

namespace Value

variable {paths : List Path}

def HasDeadEndsAt (source : Value) (place : Path) : Prop :=
  ∃ value ∈ source.valuesAt place, value.hasDeadEnds = true

theorem HasDeadEndsAt.inside {source inner : Value} {document : Document} {key : String}
    {place : Path} (there : document ∈ source.documents) (found : document.get? key = some inner)
    (closed : inner.HasDeadEndsAt place) : source.HasDeadEndsAt (key :: place) := by
  obtain ⟨value, held, closed⟩ := closed
  refine ⟨value, ?_, closed⟩
  rw [valuesAt_cons, List.mem_flatMap]
  exact ⟨document, there, by rw [Document.valuesAt_cons, found]; exact held⟩

theorem copyAll_append_nil (front back : List Path) (source : Value) (target : Option Value) :
    copyAll (front ++ [] :: back) source target = copyAll back source (some source) := by
  rw [copyAll, List.foldl_append]
  rfl

/-- No path goes through last at the arrays with dead ends of a value. -/
def Spared (paths : List Path) (source : Value) : Prop :=
  ∀ place, source.HasDeadEndsAt place → ∀ last ∈ Path.lastAlong paths place, last <+: place

theorem Spared.eq_nil {source : Value} (spared : Spared paths source) (proper : [] ∉ paths)
    (closed : source.hasDeadEnds = true) : paths = [] := by
  refine List.eq_nil_iff_forall_not_mem.2 fun path there => ?_
  obtain ⟨last, along⟩ := Path.exists_lastAlong there (.inr List.nil_prefix)
  have ends := spared [] ⟨source, List.mem_singleton_self _, closed⟩ last along
  rw [List.prefix_nil.1 ends] at along
  exact proper (Path.mem_of_lastAlong along).1

theorem Spared.below {source value : Value} {inner : Document} {key : String}
    (spared : Spared paths source) (proper : [] ∉ paths) (there : inner ∈ source.documents)
    (found : inner.get? key = some value) : Spared (Path.below key paths) value := by
  intro place closed last along
  have behind : key :: last ∈ Path.lastAlong paths (key :: place) := by
    rw [Path.lastAlong_below proper, along]
    rfl
  exact (List.cons_prefix_cons.1 (spared _ (closed.inside there found) _ behind)).2

theorem Spared.of_append {front back : List Path} {source : Value}
    (spared : Spared (front ++ back) source) : Spared back source := by
  intro place closed last along
  refine spared place closed last ?_
  rw [Path.lastAlong_append, along]
  rfl

/-- A whole value stays whole, unless a path goes through last at one of its arrays with dead
ends. -/
theorem Spared.copyAll_eq {source : Value} (spared : Spared paths source) :
    copyAll paths source (some source) = some source := by
  -- The induction is on a bound of the lengths: behind a key, all paths are shorter.
  obtain ⟨bound, short⟩ : ∃ bound, ∀ path ∈ paths, path.length < bound :=
    ⟨_, fun path there => Nat.lt_succ_of_le (List.sublist_flatten_of_mem there).length_le⟩
  induction bound generalizing paths source with
  | zero =>
    have empty : paths = [] := List.eq_nil_iff_forall_not_mem.2 fun path there =>
      Nat.not_lt_zero _ (short path there)
    rw [empty]
    rfl
  | succ bound ih =>
    have proper_eq {paths : List Path} (proper : [] ∉ paths) (spared : Spared paths source)
        (short : ∀ path ∈ paths, path.length < bound + 1) :
        copyAll paths source (some source) = some source := by
      refine copyAll_self proper (spared.eq_nil proper) fun inner there =>
        Document.copyAll_self fun key value found => ih (spared.below proper there found) ?_
      exact fun path behind => Nat.lt_of_succ_lt_succ (short _ (Path.mem_below.1 behind))
    by_cases nil : [] ∈ paths
    · -- The last inclusion of the whole value decides where the copy starts.
      obtain ⟨front, back, rfl, proper⟩ := exists_append_cons_of_mem nil
      have suffix : front ++ [] :: back = (front ++ [[]]) ++ back := by simp
      rw [copyAll_append_nil]
      exact proper_eq proper (suffix ▸ spared).of_append
        fun path there => short path (List.mem_append_right _ (List.mem_cons_of_mem _ there))
    · exact proper_eq nil spared short

theorem copyAll_of_mem_nil {source : Value} (whole : [] ∈ paths) (target : Option Value) :
    copyAll paths source target = copyAll paths source (some source) := by
  obtain ⟨front, back, rfl, _⟩ := exists_append_cons_of_mem whole
  rw [copyAll_append_nil, copyAll_append_nil]

/-- A value that is included as a whole is copied as a whole, unless at one of its arrays with dead
ends a path goes through last. -/
theorem copyAll_of_covered {source : Value}
    (settled : ∀ place, source.HasDeadEndsAt place → Path.Settled paths place)
    (whole : [] ∈ paths) (target : Option Value) :
    copyAll paths source target = some source := by
  have spared : Spared paths source := fun place closed =>
    settled place closed ⟨[], whole, List.nil_prefix⟩
  rw [copyAll_of_mem_nil whole, spared.copyAll_eq]

end Value

namespace Document

variable {source target : Document} {key : String}

theorem valuesAt_copyAll (begins : Value.Begins source target) (paths : List Path) (rest : Path) :
    (copyAll paths source target).valuesAt (key :: rest) =
      (source.get? key).elim [] fun value =>
        Value.readAt rest (value.copyAll (Path.below key paths) (target.get? key)) := by
  rw [valuesAt_cons, get?_copyAll]
  cases found : source.get? key with
  | none =>
    have absent : target.get? key = none := (begins key).elim id (·.trans found)
    rw [Option.elim_none, absent]
    rfl
  | some value => rfl

theorem valuesAt_copyAll_eq (begins : Value.Begins source target) {paths : List Path} {rest : Path}
    (each : ∀ value, source.get? key = some value →
      Value.readAt rest (value.copyAll (Path.below key paths) (target.get? key)) =
        value.valuesAt rest) :
    (copyAll paths source target).valuesAt (key :: rest) = source.valuesAt (key :: rest) := by
  rw [valuesAt_copyAll begins, valuesAt_cons]
  cases found : source.get? key with
  | none => rfl
  | some value => exact each value found

theorem exists_of_mem_valuesAt_copyAll (begins : Value.Begins source target) {paths : List Path}
    {rest : Path} {held : Value}
    (there : held ∈ (copyAll paths source target).valuesAt (key :: rest)) :
    ∃ value, source.get? key = some value ∧
      held ∈ Value.readAt rest (value.copyAll (Path.below key paths) (target.get? key)) := by
  rw [valuesAt_copyAll begins] at there
  cases found : source.get? key with
  | none =>
    rw [found] at there
    cases there
  | some value =>
    rw [found] at there
    exact ⟨value, rfl, there⟩

end Document

namespace Value

theorem Begins.start {source target : Document} {key : String} {value : Value}
    (begins : Begins source target) (found : source.get? key = some value) :
    target.get? key = none ∨ target.get? key = some value :=
  (begins key).imp id (·.trans found)

variable {paths : List Path} {source : Value} {target : Option Value}

/-- A copy reads at an included path what the value has there, unless at one of the arrays with dead
ends that an inclusion covers a path goes through last. -/
theorem readAt_copyAll {path : Path}
    (settled : ∀ place, source.HasDeadEndsAt place → Path.Settled paths place)
    (included : path ∈ paths) (start : target = none ∨ target = some source) :
    readAt path (source.copyAll paths target) = source.valuesAt path := by
  induction path generalizing paths source target with
  | nil => rw [copyAll_of_covered settled included]; rfl
  | cons key rest ih =>
    by_cases whole : [] ∈ paths
    · rw [copyAll_of_covered settled whole]
      rfl
    · obtain ⟨begun, begins, read⟩ :=
        exists_readAt_copyAll whole (List.ne_nil_of_mem included) start
      rw [read, valuesAt_cons]
      refine List.flatMap_congr fun inner there => ?_
      refine Document.valuesAt_copyAll_eq (begins inner) fun value found => ?_
      exact ih (fun place closed => (settled _ (closed.inside there found)).below whole)
        (Path.mem_below.2 included) ((begins inner).start found)

/-- What comes before the last inclusion of a whole value is of no account for a copy. -/
theorem exists_proper {place last : Path} (along : Path.lastAlong paths place = some last)
    (through : ¬ last <+: place) (start : target = none ∨ target = some source) :
    ∃ others begun, [] ∉ others ∧ (begun = none ∨ begun = some source) ∧
      Path.lastAlong others place = some last ∧
      copyAll paths source target = copyAll others source begun := by
  by_cases whole : [] ∈ paths
  · obtain ⟨front, back, rfl, proper⟩ := exists_append_cons_of_mem whole
    refine ⟨back, some source, proper, .inr rfl, ?_, copyAll_append_nil front back source target⟩
    rw [Path.lastAlong_append, Path.lastAlong_cons] at along
    cases later : Path.lastAlong back place with
    | some path =>
      rw [later] at along
      exact along
    | none =>
      rw [later] at along
      cases along
      exact absurd List.nil_prefix through
  · exact ⟨paths, target, whole, start, along, rfl⟩

theorem not_hasDeadEnds_readAt {place last : Path} (along : Path.lastAlong paths place = some last)
    (through : ¬ last <+: place) (start : target = none ∨ target = some source) {value : Value}
    (held : value ∈ readAt place (source.copyAll paths target)) : value.hasDeadEnds = false := by
  induction place generalizing paths source target last value with
  | nil =>
    obtain ⟨others, begun, proper, start, along, same⟩ := exists_proper along through start
    have nonempty : others ≠ [] := List.ne_nil_of_mem (Path.mem_of_lastAlong along).1
    rw [same] at held
    cases copied : source.copyAll others begun with
    | none =>
      rw [copied] at held
      cases held
    | some copy =>
      rw [copied] at held
      cases List.mem_singleton.1 held
      exact not_hasDeadEnds_copyAll proper nonempty start copied
  | cons key place ih =>
    obtain ⟨others, begun, proper, start, along, same⟩ := exists_proper along through start
    have nonempty : others ≠ [] := List.ne_nil_of_mem (Path.mem_of_lastAlong along).1
    obtain ⟨begun', begins, read⟩ := exists_readAt_copyAll proper nonempty start
    rw [same, read, List.mem_flatMap] at held
    obtain ⟨inner, _, held⟩ := held
    obtain ⟨value, found, held⟩ := Document.exists_of_mem_valuesAt_copyAll (begins inner) held
    obtain ⟨rest, behind, through⟩ := Path.exists_lastAlong_below proper along through
    exact ih behind through ((begins inner).start found) held

end Value

namespace Document

variable {source target : Document} {paths : List Path}

def HasDeadEndsAt (source : Document) (place : Path) : Prop :=
  (Value.document source).HasDeadEndsAt place

/-- Paths are copied as they are in the source exactly when no path goes through last at the arrays
with dead ends that they cover. -/
theorem copyAll_keeps_iff (begins : Value.Begins source target) (proper : [] ∉ paths) :
    (∀ path ∈ paths, (copyAll paths source target).valuesAt path = source.valuesAt path) ↔
      ∀ place, source.HasDeadEndsAt place → Path.Settled paths place := by
  constructor
  · rintro kept place ⟨value, there, closed⟩ ⟨path, included, rest, rfl⟩ last along
    refine Decidable.byContradiction fun through => ?_
    -- What is read at the included path was copied as a whole, dead ends and all.
    have held : value ∈ (copyAll paths source target).valuesAt (path ++ rest) := by
      rw [valuesAt, Value.valuesAt_append, ← valuesAt, kept path included, valuesAt,
        ← Value.valuesAt_append]
      exact there
    rcases path with _ | ⟨key, path⟩
    · exact proper included
    · obtain ⟨value, found, held⟩ := exists_of_mem_valuesAt_copyAll begins held
      obtain ⟨last, behind, through⟩ := Path.exists_lastAlong_below proper along through
      have free := Value.not_hasDeadEnds_readAt behind through (begins.start found) held
      rw [closed] at free
      cases free
  · intro settled path included
    rcases path with _ | ⟨key, rest⟩
    · exact absurd included proper
    · refine valuesAt_copyAll_eq begins fun value found => ?_
      refine Value.readAt_copyAll (fun place closed => ?_) (Path.mem_below.2 included)
        (begins.start found)
      exact (settled _ (closed.inside (List.mem_singleton_self source) found)).below proper

end Document

namespace Projection

theorem begins_idPart (projection : Projection) (document : Document) :
    Value.Begins document (projection.idPart document) := by
  intro key
  rw [idPart]
  cases found : document.get? idKey with
  | none => exact .inl rfl
  | some id =>
    cases projection.hidesId with
    | true => exact .inl rfl
    | false =>
      by_cases same : idKey = key
      · subst same
        exact .inr (by simp [Document.get?, found])
      · exact .inl (by simp [Document.get?, same])

/-- A selection that includes paths keeps them in a document, each with all its values, exactly when
at the arrays with elements that are no documents no included path goes through last, if such an
array lies at or behind an included path. It keeps them in every document exactly when the last of
the paths that lead to an included one or go on from it never goes on from it. -/
theorem apply_keeps_exactly {projection : Projection} (inclusive : projection.isInclusive = true) :
    (∀ document,
      (∀ path ∈ projection.paths true,
          (projection.apply document).valuesAt path = document.valuesAt path) ↔
        ∀ place, document.HasDeadEndsAt place → Path.Settled (projection.paths true) place) ∧
    ((∀ document, ∀ path ∈ projection.paths true,
          (projection.apply document).valuesAt path = document.valuesAt path) ↔
        ∀ path ∈ projection.paths true, Path.Settled (projection.paths true) path) := by
  have proper : [] ∉ projection.paths true := by
    intro there
    obtain ⟨entry, _, same⟩ := List.mem_map.1 there
    exact Path.ofText_ne_nil entry.1 same
  have each (document : Document) :
      (∀ path ∈ projection.paths true,
          (projection.apply document).valuesAt path = document.valuesAt path) ↔
        ∀ place, document.HasDeadEndsAt place → Path.Settled (projection.paths true) place := by
    have applied : projection.apply document =
        Document.copyAll (projection.paths true) document (projection.idPart document) := by
      rw [apply, if_pos inclusive]
      rfl
    rw [applied]
    exact Document.copyAll_keeps_iff (projection.begins_idPart document) proper
  refine ⟨each, fun kept path there => ?_, fun settled document => ?_⟩
  · have nonempty : path ≠ [] := fun nil => proper (nil ▸ there)
    have closed : (Document.holding (.array [.null]) path).HasDeadEndsAt path :=
      ⟨.array [.null], by rw [← Document.valuesAt, Document.valuesAt_holding _ nonempty]; simp, rfl⟩
    exact (each _).1 (kept _) path closed
  · exact (each document).2 fun place _ => Path.settled_of_forall_mem settled place

def taggedPost : Document :=
  [("tags", .array [.string "x", .document [("name", .string "y"), ("rank", .int64 1)]])]

/-- Parts of the tags are included before the tags as a whole. -/
theorem apply_keeps_tags :
    let selection := (({} : Projection).including "tags.name").including "tags"
    selection.isInclusive = true ∧
      (selection.apply taggedPost).valuesAt ["tags"] = taggedPost.valuesAt ["tags"] := by
  intro selection
  have inclusive : selection.isInclusive = true := by decide
  have settled : ∀ path ∈ selection.paths true, Path.Settled (selection.paths true) path := by
    decide +kernel
  have included : ["tags"] ∈ selection.paths true := by decide +kernel
  exact ⟨inclusive, (apply_keeps_exactly inclusive).2.2 settled taggedPost ["tags"] included⟩

/-- A part of the tags that is included after the tags as a whole makes them anew: the tag that is a
string is lost, and so is what else the other one holds. -/
theorem apply_loses_tags :
    let selection := (({} : Projection).including "tags").including "tags.name"
    selection.isInclusive = true ∧ ["tags"] ∈ selection.paths true ∧
      taggedPost.valuesAt ["tags"] =
        [.array [.string "x", .document [("name", .string "y"), ("rank", .int64 1)]]] ∧
      (selection.apply taggedPost).valuesAt ["tags"] =
        [.array [.document [("name", .string "y")]]] ∧
      ¬ ∀ path ∈ selection.paths true,
        (selection.apply taggedPost).valuesAt path = taggedPost.valuesAt path := by
  intro selection
  have included : ["tags"] ∈ selection.paths true := by decide +kernel
  have made : (selection.apply taggedPost).valuesAt ["tags"] =
      [.array [.document [("name", .string "y")]]] := by decide +kernel
  refine ⟨by decide, included, rfl, made, fun kept => ?_⟩
  have same := made.symm.trans (kept ["tags"] included)
  revert same
  decide +kernel

end Projection

end DocumentQuery
