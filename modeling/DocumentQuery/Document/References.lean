import DocumentQuery.Document.Path

/-! References between documents. A reference field holds an identifier or an
array of them. Replacing references puts documents in the places of their
identifiers, in arrays of arrays too, while the identifiers of a value are only
looked for in the value itself and in the elements of an array.
-/

set_option autoImplicit false

namespace DocumentQuery

/-- The key that says for which locale a document was inserted. -/
def localeKey : String := "$locale"

namespace Value

def references : Value → List ObjectId
  | .objectId id => [id]
  | .array items => items.filterMap fun
    | .objectId id => some id
    | _ => none
  | _ => []

def inserted (locale : Option String) (referent : Document) : Value :=
  .document <| match locale with
    | some locale => referent.set localeKey (.string locale)
    | none => referent

mutual

def resolve (referent? : ObjectId → Option Document) (locale : Option String) : Value → Value
  | .objectId id =>
    match referent? id with
    | some referent => inserted locale referent
    | none => .objectId id
  | .array items => .array (resolveItems referent? locale items)
  | value => value

def resolveItems (referent? : ObjectId → Option Document) (locale : Option String) :
    List Value → List Value
  | [] => []
  | item :: rest => resolve referent? locale item :: resolveItems referent? locale rest

end

mutual

def resolvable (referent? : ObjectId → Option Document) : Value → Nat
  | .objectId id => if (referent? id).isSome then 1 else 0
  | .array items => resolvableItems referent? items
  | _ => 0

/-- The number of identifiers with a referent in the elements of an array. -/
def resolvableItems (referent? : ObjectId → Option Document) : List Value → Nat
  | [] => 0
  | item :: rest => resolvable referent? item + resolvableItems referent? rest

end

theorem resolveItems_eq_map (referent? : ObjectId → Option Document) (locale : Option String)
    (items : List Value) :
    resolveItems referent? locale items = items.map (resolve referent? locale) := by
  induction items with
  | nil => rfl
  | cons item rest ih => simp [resolveItems, ih]

end Value

namespace Document

def referencesAt : Path → Document → List ObjectId
  | [], _ => []
  | [key], document => ((document.get? key).map (·.references)).getD []
  | key :: rest, document =>
    match document.get? key with
    | some value => value.documents.flatMap (referencesAt rest)
    | none => []

def resolveAt (referent? : ObjectId → Option Document) (locale : Option String) :
    Path → Document → Document
  | [], document => document
  | [key], document => document.modify key (·.resolve referent? locale)
  | key :: rest, document => document.modify key (·.mapDocuments (resolveAt referent? locale rest))

/-- The number of identifiers at a path that have a referent. -/
def resolvableAt (referent? : ObjectId → Option Document) : Path → Document → Nat
  | [], _ => 0
  | [key], document => ((document.get? key).map (·.resolvable referent?)).getD 0
  | key :: rest, document =>
    match document.get? key with
    | some value => (value.documents.map (resolvableAt referent? rest)).sum
    | none => 0

theorem referencesAt_append (front : Path) (key : String) (document : Document) :
    referencesAt (front ++ [key]) document =
      (documentsAt front document).flatMap fun reached =>
        ((reached.get? key).map (·.references)).getD [] := by
  induction front generalizing document with
  | nil => simp [referencesAt, documentsAt]
  | cons step front ih =>
    have more : front ++ [key] = [] → False := by simp
    rw [List.cons_append, referencesAt.eq_3 _ _ _ more, documentsAt]
    cases document.get? step with
    | none => rfl
    | some value =>
      simp only [List.flatMap_assoc]
      exact congrArg (value.documents.flatMap ·) (funext ih)

end Document

end DocumentQuery
