import DocumentQuery.Population.Expansion
import DocumentQuery.Schema.Registry

/-! Deep expansion. Paths are expanded one after the other in documents that are
already loaded, so that a path can go through documents that an earlier one
inserted. A failure ends the run and keeps what the earlier paths have done.
-/

set_option autoImplicit false

namespace DocumentQuery

inductive DocumentSet where
  | one (document : Document)
  | many (documents : List Document)

namespace DocumentSet

def toList : DocumentSet → List Document
  | .one document => [document]
  | .many documents => documents

/-- A single document is never empty. -/
def isEmpty (set : DocumentSet) : Bool :=
  set.toList.isEmpty

def size (set : DocumentSet) : Nat :=
  set.toList.length

def map (change : Document → Document) : DocumentSet → DocumentSet
  | .one document => .one (change document)
  | .many documents => .many (documents.map change)

theorem toList_map (change : Document → Document) (set : DocumentSet) :
    (set.map change).toList = set.toList.map change := by
  cases set <;> rfl

end DocumentSet

namespace Population

variable {σ : Type}

/-- The documents after a deep expansion, and what ended it early if anything did. -/
structure DeepRun where
  documents : DocumentSet
  failure : Option AccessError := none

/-- Whether some document is reached by all of a path but its last key. -/
def hasCandidates (set : DocumentSet) (path : Path) : Bool :=
  set.toList.any fun document => ! (document.documentsAt path.dropLast).isEmpty

/-- The collection that the last key of a path refers to, from the schema that governs the
documents before it. -/
def deepTarget? (registry : Registry) (root : Schema) (path : Path) : Option String := do
  let schema ← registry.governing? path.dropLast root
  (← schema.fieldType? (← path.getLast?)).referenceTarget?

def deepSelection (registry : Registry) (target : String) : Option Projection :=
  (registry.get? target).bind (·.adminExclusions?)

/-- Expands one path, unless nothing lies before its last key or that key is no reference. -/
def expandPath (backend : Backend σ) (registry : Registry) (root : Schema) (locale : String)
    (set : DocumentSet) (path : Path) : Action σ DocumentSet :=
  if hasCandidates set path then
    match deepTarget? registry root path with
    | none => pure set
    | some target => do
      let referents ← fetch backend set.toList path target (deepSelection registry target)
      return set.map (·.resolveAt referents.get? (some locale) path)
  else pure set

def expandPaths (backend : Backend σ) (registry : Registry) (root : Schema) (locale : String) :
    List String → DocumentSet → StateM σ DeepRun
  | [], set => pure { documents := set }
  | path :: rest, set => do
    match ← (expandPath backend registry root locale set (Path.ofText path)).run with
    | .ok expanded => expandPaths backend registry root locale rest expanded
    | .error error => return { documents := set, failure := some error }

def deep (backend : Backend σ) (registry : Registry) (collection locale : String)
    (paths : List String) (set : DocumentSet) : StateM σ DeepRun :=
  if set.isEmpty then pure { documents := set }
  else
    match registry.schema collection with
    | .error error => pure { documents := set, failure := some error }
    | .ok root => expandPaths backend registry root locale paths set

end Population

end DocumentQuery
