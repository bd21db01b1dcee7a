import DocumentQuery.Document.Path

/-! Selections of fields. Each entry includes or excludes one dotted path, and a
path has one entry only: a later choice replaces the earlier one in its place. A
selection with an inclusion keeps the included paths and the identifier; any other
removes the excluded paths.
-/

set_option autoImplicit false

namespace DocumentQuery

structure Projection where
  entries : List (String × Bool) := []
  deriving DecidableEq, Repr

namespace Projection

/-- Sets the choice for a path: in its place when present, at the end otherwise. -/
def setEntry (path : String) (included : Bool) : List (String × Bool) → List (String × Bool)
  | [] => [(path, included)]
  | (other, choice) :: rest =>
    if other = path then (path, included) :: rest
    else (other, choice) :: setEntry path included rest

def set (projection : Projection) (path : String) (included : Bool) : Projection :=
  ⟨setEntry path included projection.entries⟩

def including (projection : Projection) (path : String) : Projection :=
  projection.set path true

def excluding (projection : Projection) (path : String) : Projection :=
  projection.set path false

/-- Takes over the entries of another selection, which win on a common path. -/
def merge (projection other : Projection) : Projection :=
  other.entries.foldl (fun merged (path, included) => merged.set path included) projection

def hiding? (paths : List String) : Option Projection :=
  if paths.isEmpty then none else some (paths.foldl excluding {})

def both? : Option Projection → Option Projection → Option Projection
  | some first, some second => some (first.merge second)
  | first, second => first <|> second

def isEmpty (projection : Projection) : Bool :=
  projection.entries.isEmpty

/-- Whether the selection names what to keep rather than what to hide. -/
def isInclusive (projection : Projection) : Bool :=
  projection.entries.any (·.2)

def hidesId (projection : Projection) : Bool :=
  projection.entries.contains (idKey, false)

def paths (projection : Projection) (included : Bool) : List Path :=
  (projection.entries.filter (·.2 == included)).map fun entry => Path.ofText entry.1

/-- The identifier entry that a selection starts from. -/
def idPart (projection : Projection) (document : Document) : Document :=
  match document.get? idKey with
  | some id => if projection.hidesId then [] else [(idKey, id)]
  | none => []

def apply (projection : Projection) (document : Document) : Document :=
  -- Next to an inclusion the exclusions do not count, but for that of the identifier.
  if projection.isInclusive then
    (projection.paths true).foldl (fun selected path => Document.copyAt path document selected)
      (projection.idPart document)
  else
    (projection.paths false).foldl (fun rest path => rest.without path) document

/-- The selected part of a document, which is all of it without a selection. -/
def applyTo (projection : Option Projection) (document : Document) : Document :=
  match projection with
  | some projection => projection.apply document
  | none => document

theorem setEntry_paths (path : String) (included : Bool) (entries : List (String × Bool)) :
    (setEntry path included entries).map Prod.fst =
      if path ∈ entries.map Prod.fst then entries.map Prod.fst
      else entries.map Prod.fst ++ [path] := by
  induction entries with
  | nil => rfl
  | cons entry rest ih =>
    obtain ⟨other, choice⟩ := entry
    by_cases same : other = path
    · simp [setEntry, same]
    · by_cases later : path ∈ rest.map Prod.fst <;>
        simp_all [setEntry, Ne.symm same]

theorem nodup_set {projection : Projection} (path : String) (included : Bool)
    (h : (projection.entries.map Prod.fst).Nodup) :
    ((projection.set path included).entries.map Prod.fst).Nodup := by
  simp only [set, setEntry_paths]
  split
  · exact h
  · rename_i absent
    refine List.nodup_append.2 ⟨h, by simp, ?_⟩
    intro a there b last
    simp only [List.mem_singleton] at last
    subst last
    rintro rfl
    exact absent there

end Projection

end DocumentQuery
