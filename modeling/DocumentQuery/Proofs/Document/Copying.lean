import DocumentQuery.Proofs.Document.Removal
import Mathlib.Data.List.Basic

/-! Copies of several paths. Paths are copied into a document one after the other, and what comes
to lie under a key depends only on the paths that start with the key. So a copy of documents is
made of copies of their values, and each of these is started anew or goes on in what is there of
the value so far.
-/

set_option autoImplicit false

namespace DocumentQuery

namespace Path

/-- How the paths that start with a key go on. -/
def below (key : String) (paths : List Path) : List Path :=
  paths.filterMap fun path => if path.head? = some key then some path.tail else none

theorem below_cons_self (key : String) (rest : Path) (paths : List Path) :
    below key ((key :: rest) :: paths) = rest :: below key paths := by
  simp [below]

theorem below_cons_of_ne {key : String} {path : Path} (other : path.head? ≠ some key)
    (paths : List Path) : below key (path :: paths) = below key paths := by
  simp [below, other]

theorem below_filter (key name : String) (paths : List Path) :
    below key (paths.filter fun path => path.head? ≠ some name) =
      if name = key then [] else below key paths := by
  rw [below, List.filterMap_filter]
  by_cases same : name = key
  · rw [if_pos same, List.filterMap_eq_nil_iff]
    intro path there
    by_cases starts : path.head? = some key <;> simp [starts, same]
  · rw [if_neg same]
    refine List.filterMap_congr fun path there => ?_
    by_cases starts : path.head? = some key <;> simp [starts, Ne.symm same]

theorem mem_below {key : String} {rest : Path} {paths : List Path} :
    rest ∈ below key paths ↔ key :: rest ∈ paths := by
  simp only [below, List.mem_filterMap, Option.ite_none_right_eq_some, Option.some.injEq]
  constructor
  · rintro ⟨path, there, starts, rfl⟩
    exact List.cons_head?_tail starts ▸ there
  · intro there
    exact ⟨key :: rest, there, rfl, rfl⟩

end Path

namespace Value

def isDocument : Value → Bool
  | .document _ => true
  | _ => false

/-- An array has elements through which no path goes on: they are no documents. -/
def hasDeadEnds : Value → Bool
  | .array items => items.any fun item => ! item.isDocument
  | _ => false

theorem eq_map_documents {items : List Value} (open_ : (array items).hasDeadEnds = false) :
    (array items).documents.map document = items := by
  simp only [hasDeadEnds] at open_
  induction items with
  | nil => rfl
  | cons item rest ih =>
    obtain ⟨here, later⟩ := Bool.or_eq_false_iff.1 ((List.any_cons).symm.trans open_)
    cases item with
    | document fields => exact congrArg (document fields :: ·) (ih later)
    | _ => cases here

theorem length_documents_lt {items : List Value} (closed : (array items).hasDeadEnds = true) :
    (array items).documents.length < items.length := by
  simp only [hasDeadEnds] at closed
  induction items with
  | nil => cases closed
  | cons item rest ih =>
    cases item with
    | document fields => exact Nat.succ_lt_succ (ih closed)
    | _ => exact Nat.lt_succ_of_le (List.length_filterMap_le _ rest)

def begunDocument : Option Value → Document
  | some (.document present) => present
  | _ => []

def begunPlaces (sources : List Document) : Option Value → List Value
  | some (.array present) =>
    if present.length = sources.length then present else sources.map fun _ => .document []
  | _ => sources.map fun _ => .document []

def copyAt (path : Path) (source : Value) (target : Option Value) : Option Value :=
  if path = [] then some source
  else
    match source with
    | .document inner => some (.document (Document.copyAt path inner (begunDocument target)))
    | .array items =>
      let sources := (array items).documents
      let places := begunPlaces sources target
      some (.array (Document.fillPlaces (Document.copyAt path) sources places))
    | _ => target

def copyAll (paths : List Path) (source : Value) (target : Option Value) : Option Value :=
  paths.foldl (fun selected path => source.copyAt path selected) target

def readAt (path : Path) (value : Option Value) : List Value :=
  (value.map (·.valuesAt path)).getD []

theorem eq_none_of_copyAt {path : Path} {source : Value} {target : Option Value}
    (nothing : source.copyAt path target = none) : target = none := by
  unfold copyAt at nothing
  split at nothing
  · cases nothing
  · cases source with
    | document inner => cases nothing
    | array items => cases nothing
    | _ => exact nothing

end Value

namespace Document

variable (key : String) (source target : Document)

def copyAll (paths : List Path) (source target : Document) : Document :=
  paths.foldl (fun selected path => copyAt path source selected) target

theorem set_of_get? {document : Document} {key : String} {value : Value}
    (found : document.get? key = some value) : document.set key value = document := by
  induction document with
  | nil => cases found
  | cons entry rest ih =>
    obtain ⟨name, old⟩ := entry
    rw [get?] at found
    rw [set]
    split at found
    · rename_i same
      cases found
      rw [if_pos same]
    · rename_i other
      rw [if_neg other, ih found]

theorem copyAt_cons (rest : Path) :
    copyAt (key :: rest) source target = (source.get? key).elim target fun value =>
      (value.copyAt rest (target.get? key)).elim target fun copy => target.set key copy := by
  unfold copyAt
  cases found : source.get? key with
  | none => rfl
  | some value =>
    cases rest with
    | nil => rfl
    | cons next rest =>
      cases value with
      | document inner => rfl
      | array items => rfl
      | _ =>
        -- Nothing is copied of a value that the path does not go through.
        cases present : target.get? key with
        | none => rfl
        | some value => exact (set_of_get? present).symm

theorem get?_copyAt (rest : Path) (other : String) :
    (copyAt (key :: rest) source target).get? other =
      if key = other then (source.get? key).elim (target.get? key) fun value =>
        value.copyAt rest (target.get? key)
      else target.get? other := by
  rw [copyAt_cons]
  cases source.get? key with
  | none => by_cases same : key = other <;> simp [same]
  | some value =>
    simp only [Option.elim_some]
    cases copied : value.copyAt rest (target.get? key) with
    | none =>
      have absent := Value.eq_none_of_copyAt copied
      by_cases same : key = other
      · subst same
        simp [absent]
      · simp [same]
    | some copy => rw [Option.elim_some, get?_set]

/-- What comes to lie under a key is the copy of the paths that start with the key. -/
theorem get?_copyAll (paths : List Path) :
    (copyAll paths source target).get? key = (source.get? key).elim (target.get? key) fun value =>
      value.copyAll (Path.below key paths) (target.get? key) := by
  induction paths generalizing target with
  | nil => cases source.get? key <;> rfl
  | cons path paths ih =>
    have step : copyAll (path :: paths) source target =
      copyAll paths source (copyAt path source target) := rfl
    rw [step, ih]
    rcases path with _ | ⟨first, rest⟩
    · rw [Path.below_cons_of_ne (by simp)]
      rfl
    · rw [get?_copyAt]
      by_cases same : first = key
      · subst same
        rw [if_pos rfl, Path.below_cons_self]
        cases source.get? first <;> rfl
      · rw [if_neg same, Path.below_cons_of_ne (by simpa using same)]

section Entries

variable (name : String) (whole part : Value)

theorem copyAt_entry (rest : Path) :
    copyAt (key :: rest) ((name, whole) :: source) ((name, part) :: target) =
      if name = key then (name, (whole.copyAt rest (some part)).getD part) :: target
      else (name, part) :: copyAt (key :: rest) source target := by
  rw [copyAt_cons, copyAt_cons]
  by_cases same : name = key
  · simp only [get?, if_pos same, Option.elim_some]
    cases copied : whole.copyAt rest (some part) with
    | none => cases Value.eq_none_of_copyAt copied
    | some copy => simp [set, same]
  · simp only [get?, if_neg same]
    cases source.get? key with
    | none => rfl
    | some value =>
      simp only [Option.elim_some]
      cases value.copyAt rest (target.get? key) with
      | none => rfl
      | some copy => simp [set, same]

theorem copyAll_entry {paths : List Path} {copy : Value}
    (copied : whole.copyAll (Path.below name paths) (some part) = some copy) :
    copyAll paths ((name, whole) :: source) ((name, part) :: target) =
      (name, copy) ::
        copyAll (paths.filter fun path => path.head? ≠ some name) source target := by
  induction paths generalizing part target with
  | nil =>
    cases copied
    rfl
  | cons path paths ih =>
    rcases path with _ | ⟨key, rest⟩
    · rw [Path.below_cons_of_ne (by simp)] at copied
      exact ih target part copied
    · have step (source target : Document) : copyAll ((key :: rest) :: paths) source target =
        copyAll paths source (copyAt (key :: rest) source target) := rfl
      rw [step, copyAt_entry]
      by_cases same : name = key
      · subst same
        rw [Path.below_cons_self] at copied
        cases changed : whole.copyAt rest (some part) with
        | none => cases Value.eq_none_of_copyAt changed
        | some value =>
          have later : whole.copyAll (Path.below name paths) (some value) = some copy :=
            changed ▸ copied
          rw [if_pos rfl, Option.getD_some, ih target value later,
            List.filter_cons_of_neg (by simp)]
      · have other : (key :: rest).head? ≠ some name := by simpa using Ne.symm same
        rw [Path.below_cons_of_ne other] at copied
        rw [if_neg same, ih _ part copied, List.filter_cons_of_pos (by simpa using other)]
        rfl

end Entries

theorem copyAll_self {paths : List Path} {source : Document}
    (kept : ∀ key value, source.get? key = some value →
      value.copyAll (Path.below key paths) (some value) = some value) :
    copyAll paths source source = source := by
  induction source generalizing paths with
  | nil =>
    clear kept
    induction paths with
    | nil => rfl
    | cons path paths ih =>
      have same : copyAt path [] [] = [] := by
        cases path with
        | nil => rfl
        | cons key rest => rw [copyAt_cons, get?_nil, Option.elim_none]
      exact (congrArg (copyAll paths []) same).trans ih
  | cons entry source ih =>
    obtain ⟨name, whole⟩ := entry
    rw [copyAll_entry source source name whole whole (kept name whole (by simp [get?])), ih]
    intro key value found
    rw [Path.below_filter]
    by_cases same : name = key
    · rw [if_pos same]
      rfl
    · rw [if_neg same]
      exact kept key value (by rw [get?, if_neg same, found])

theorem fillPlaces_map (copy : Document → Document → Document) (begun : Document → Document)
    (sources : List Document) :
    fillPlaces copy sources (sources.map fun inner => .document (begun inner)) =
      sources.map fun inner => .document (copy inner (begun inner)) := by
  induction sources with
  | nil => rfl
  | cons inner rest ih => rw [List.map_cons, fillPlaces, ih, List.map_cons]

end Document

namespace Value

variable {paths : List Path}

theorem documents_map (sources : List Document) (change : Document → Document) :
    (array (sources.map fun inner => document (change inner))).documents = sources.map change := by
  simp [documents, List.filterMap_map]

theorem copyAt_document {path : Path} (proper : path ≠ []) (inner : Document)
    (target : Option Value) :
    (document inner).copyAt path target =
      some (document (Document.copyAt path inner (begunDocument target))) := by
  rw [copyAt, if_neg proper]

theorem copyAt_array {path : Path} (proper : path ≠ []) {items : List Value}
    {target : Option Value} {begun : Document → Document}
    (places : begunPlaces (array items).documents target =
      (array items).documents.map fun inner => document (begun inner)) :
    (array items).copyAt path target = some (array ((array items).documents.map fun inner =>
      document (Document.copyAt path inner (begun inner)))) := by
  simp only [copyAt, if_neg proper, places, Document.fillPlaces_map]

theorem copyAll_document (proper : [] ∉ paths) (inner begun : Document) :
    (document inner).copyAll paths (some (document begun)) =
      some (document (Document.copyAll paths inner begun)) := by
  induction paths generalizing begun with
  | nil => rfl
  | cons path paths ih =>
    obtain ⟨first, later⟩ := List.ne_and_not_mem_of_not_mem_cons proper
    have step := copyAt_document (Ne.symm first) inner (some (document begun))
    exact (congrArg (copyAll paths (document inner)) step).trans (ih later _)

theorem copyAll_array (proper : [] ∉ paths) (items : List Value) (begun : Document → Document) :
    (array items).copyAll paths
        (some (array ((array items).documents.map fun inner => document (begun inner)))) =
      some (array ((array items).documents.map fun inner =>
        document (Document.copyAll paths inner (begun inner)))) := by
  induction paths generalizing begun with
  | nil => rfl
  | cons path paths ih =>
    obtain ⟨first, later⟩ := List.ne_and_not_mem_of_not_mem_cons proper
    have places : begunPlaces (array items).documents
        (some (array ((array items).documents.map fun inner => document (begun inner)))) =
        (array items).documents.map fun inner => document (begun inner) :=
      if_pos (List.length_map _)
    have step := copyAt_array (Ne.symm first) places
    exact (congrArg (copyAll paths (array items)) step).trans (ih later _)

/-- In what is there of a value, its documents are continued from these beginnings. -/
inductive Continues (begun : Document → Document) : Value → Option Value → Prop
  | document {inner : Document} {target : Option Value} :
      begunDocument target = begun inner → Continues begun (document inner) target
  | array {items : List Value} {target : Option Value} :
      begunPlaces (array items).documents target =
        (array items).documents.map (fun inner => .document (begun inner)) →
      Continues begun (array items) target

/-- A copy of paths into a document or an array holds copies of its documents and nothing else. -/
theorem copyAll_of_continues (proper : [] ∉ paths) (nonempty : paths ≠ []) {source : Value}
    {target : Option Value} {begun : Document → Document}
    (continues : Continues begun source target) :
    ∃ copy, copyAll paths source target = some copy ∧ copy.hasDeadEnds = false ∧
      copy.documents = source.documents.map fun inner =>
        Document.copyAll paths inner (begun inner) := by
  obtain ⟨path, rest, rfl⟩ := List.exists_cons_of_ne_nil nonempty
  obtain ⟨first, later⟩ := List.ne_and_not_mem_of_not_mem_cons proper
  cases continues with
  | @document inner _ same =>
    have step := copyAt_document (Ne.symm first) inner target
    rw [same] at step
    have whole := (congrArg (copyAll rest (document inner)) step).trans
      (copyAll_document later inner _)
    exact ⟨_, whole, rfl, rfl⟩
  | @array items _ places =>
    have step := copyAt_array (Ne.symm first) places
    have whole := (congrArg (copyAll rest (array items)) step).trans
      (copyAll_array later items _)
    refine ⟨_, whole, ?_, documents_map _ _⟩
    simp [hasDeadEnds, isDocument]

def Begins (source target : Document) : Prop :=
  ∀ key, target.get? key = none ∨ target.get? key = source.get? key

theorem begins_empty (source : Document) : Begins source [] :=
  fun _ => .inl rfl

theorem begins_self (source : Document) : Begins source source :=
  fun _ => .inr rfl

/-- A copy that starts with nothing or with the whole value continues its documents, unless
the value has none. -/
theorem exists_continues {source : Value} {target : Option Value}
    (start : target = none ∨ target = some source) :
    (∃ begun, (∀ inner, Begins inner (begun inner)) ∧ Continues begun source target) ∨
      (source.documents = [] ∧ source.hasDeadEnds = false ∧
        ∀ paths, [] ∉ paths → copyAll paths source target = target) := by
  cases source with
  | document inner =>
    rcases start with rfl | rfl
    · exact .inl ⟨fun _ => [], begins_empty, .document rfl⟩
    · exact .inl ⟨id, begins_self, .document rfl⟩
  | array items =>
    rcases start with rfl | rfl
    · exact .inl ⟨fun _ => [], begins_empty, .array rfl⟩
    · cases closed : (array items).hasDeadEnds with
      | true =>
        have longer := Nat.ne_of_gt (length_documents_lt closed)
        exact .inl ⟨fun _ => [], begins_empty, .array (if_neg longer)⟩
      | false =>
        have same := eq_map_documents closed
        have equal : items.length = (array items).documents.length := by
          rw [← List.length_map document, same]
        exact .inl ⟨id, begins_self, .array ((if_pos equal).trans same.symm)⟩
  | _ =>
    refine .inr ⟨rfl, rfl, fun paths proper => ?_⟩
    induction paths with
    | nil => rfl
    | cons path paths ih =>
      obtain ⟨first, later⟩ := List.ne_and_not_mem_of_not_mem_cons proper
      exact (congrArg (copyAll paths _) (if_neg (Ne.symm first))).trans (ih later)

theorem copyAll_self (proper : [] ∉ paths) {source : Value}
    (reached : source.hasDeadEnds = true → paths = [])
    (inside : ∀ inner ∈ source.documents, Document.copyAll paths inner inner = inner) :
    copyAll paths source (some source) = some source := by
  cases closed : source.hasDeadEnds with
  | true =>
    rw [reached closed]
    rfl
  | false =>
    rcases @exists_continues source (some source) (.inr rfl) with
      ⟨begun, _, continues⟩ | ⟨_, _, unchanged⟩
    · cases continues with
      | document same => rw [copyAll_document proper, inside _ List.mem_cons_self]
      | @array items _ places =>
        have same := eq_map_documents closed
        have kept : ((array items).documents.map fun inner =>
            document (Document.copyAll paths inner (id inner))) =
              (array items).documents.map document :=
          List.map_congr_left fun inner there => congrArg document (inside inner there)
        have copied := copyAll_array proper items id
        have whole : ((array items).documents.map fun inner => document (id inner)) = items := same
        rw [whole, kept, same] at copied
        exact copied
    · exact unchanged paths proper

/-- Behind a first key, a copy of paths reads what the copies of the documents of a value read. -/
theorem exists_readAt_copyAll (proper : [] ∉ paths) (nonempty : paths ≠ []) {source : Value}
    {target : Option Value} (start : target = none ∨ target = some source) :
    ∃ begun : Document → Document, (∀ inner, Begins inner (begun inner)) ∧
      ∀ key rest, readAt (key :: rest) (copyAll paths source target) =
        source.documents.flatMap fun inner =>
          (Document.copyAll paths inner (begun inner)).valuesAt (key :: rest) := by
  rcases exists_continues start with ⟨begun, begins, continues⟩ | ⟨bare, _, unchanged⟩
  · obtain ⟨copy, copied, _, held⟩ := copyAll_of_continues proper nonempty continues
    refine ⟨begun, begins, fun key rest => ?_⟩
    rw [copied, readAt, Option.map_some, Option.getD_some, valuesAt_cons, held, List.flatMap_map]
  · refine ⟨id, begins_self, fun key rest => ?_⟩
    rw [unchanged paths proper, bare]
    rcases start with rfl | rfl
    · rfl
    · rw [readAt, Option.map_some, Option.getD_some, valuesAt_cons, bare, List.flatMap_nil,
        List.flatMap_nil]

theorem not_hasDeadEnds_copyAll (proper : [] ∉ paths) (nonempty : paths ≠ []) {source copy : Value}
    {target : Option Value} (start : target = none ∨ target = some source)
    (copied : copyAll paths source target = some copy) : copy.hasDeadEnds = false := by
  rcases exists_continues start with ⟨begun, _, continues⟩ | ⟨_, free, unchanged⟩
  · obtain ⟨other, same, free, _⟩ := copyAll_of_continues proper nonempty continues
    rw [copied] at same
    cases same
    exact free
  · rw [unchanged paths proper] at copied
    rcases start with rfl | rfl
    · cases copied
    · cases copied
      exact free

end Value

end DocumentQuery
