import DocumentQuery.Text.Words
import DocumentQuery.Value

/-! Dotted paths into documents. A path goes through embedded documents and
through the documents of an array, but not through arrays within arrays. Filters
read the values at a path; a selection removes or copies what lies at it.
-/

set_option autoImplicit false

namespace DocumentQuery

/-- The keys that a path follows, outermost first. -/
abbrev Path := List String

/-- The keys of a path written with dots; there is always at least one. -/
def Path.ofText (text : String) : Path :=
  Text.splitAt '.' text

def Path.text (path : Path) : String :=
  ".".intercalate path

/-- Whether a path goes through the end of the first one and further. -/
def Path.ProperPrefix (path other : Path) : Prop :=
  path <+: other ∧ path ≠ other

instance (path other : Path) : Decidable (path.ProperPrefix other) :=
  inferInstanceAs (Decidable (path <+: other ∧ path ≠ other))

def Value.valuesAt : Path → Value → List Value
  | [], value => [value]
  | key :: rest, value =>
    value.documents.flatMap fun document =>
      match document.get? key with
      | some next => valuesAt rest next
      | none => []

namespace Document

def valuesAt (path : Path) (document : Document) : List Value :=
  Value.valuesAt path (.document document)

def valueAt? (path : Path) (document : Document) : Option Value :=
  (document.valuesAt path).head?

/-- The documents reached from a document; it reaches itself by the empty path. -/
def documentsAt : Path → Document → List Document
  | [], document => [document]
  | key :: rest, document =>
    match document.get? key with
    | some value => value.documents.flatMap (documentsAt rest)
    | none => []

def without : Path → Document → Document
  | [], document => document
  | [key], document => document.erase key
  | key :: rest, document => document.modify key (·.mapDocuments (without rest))

def fillPlaces (copy : Document → Document → Document) :
    List Document → List Value → List Value
  | source :: sources, .document place :: places =>
    .document (copy source place) :: fillPlaces copy sources places
  | _ :: sources, place :: places => place :: fillPlaces copy sources places
  | _, places => places

/-- Copies what lies at a path of a source into a target. -/
def copyAt : Path → (source target : Document) → Document
  | [], _, target => target
  | key :: rest, source, target =>
    match source.get? key, rest with
    | none, _ => target
    | some value, [] => target.set key value
    | some (.document inner), _ :: _ =>
      -- A document on the way is continued when the target already holds one.
      let begun := match target.get? key with
        | some (.document present) => present
        | _ => []
      target.set key (.document (copyAt rest inner begun))
    -- Elements that are no documents have no place in the copy, which is as long as its sources.
    | some (.array items), _ :: _ =>
      let sources := (Value.array items).documents
      let begun := match target.get? key with
        | some (.array present) =>
          if present.length = sources.length then present
          else sources.map fun _ => .document []
        | _ => sources.map fun _ => .document []
      target.set key (.array (fillPlaces (copyAt rest) sources begun))
    | some _, _ :: _ => target

end Document

end DocumentQuery
