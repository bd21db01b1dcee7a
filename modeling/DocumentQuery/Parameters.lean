/-! Request parameters: an ordered list of names with values, where a name may
occur often. Each stage of planning takes the parameters it understands and hands
on the others in their order. A family is a root name together with the names that
add bracketed segments to it, as in `filter[age][gte]`.
-/

set_option autoImplicit false

namespace DocumentQuery

abbrev Parameters := List (String × String)

namespace Parameters

/-- Reads bracketed segments one after the other. Within brackets, `inside` holds the characters
read so far in reverse. -/
def readBrackets? (inside : Option (List Char)) : List Char → Option (List (List Char))
  | [] => match inside with
    | none => some []
    | some _ => none
  | c :: rest => match inside with
    | none => if c = '[' then readBrackets? (some []) rest else none
    | some seen =>
      if c = ']' then (readBrackets? none rest).map (seen.reverse :: ·)
      else readBrackets? (some (c :: seen)) rest

/-- The bracketed segments that a name adds to a root; none when it is not of the family. -/
def segments? (name root : String) : Option (List String) := do
  let rest ← root.toList.isPrefixOf? name.toList
  return (← readBrackets? none rest).map String.ofList

def inFamily (root name : String) : Bool :=
  (segments? name root).isSome

def get? (parameters : Parameters) (name : String) : Option String :=
  (parameters.find? (·.1 == name)).map (·.2)

def getAll (parameters : Parameters) (name : String) : List String :=
  (parameters.filter (·.1 == name)).map (·.2)

def contains (parameters : Parameters) (name : String) : Bool :=
  parameters.any (·.1 == name)

def names (parameters : Parameters) : List String :=
  parameters.map (·.1)

def take (parameters : Parameters) (name : String) : List String × Parameters :=
  (parameters.getAll name, parameters.filter (·.1 != name))

def takeFamily (parameters : Parameters) (root : String) : Parameters × Parameters :=
  (parameters.filter (inFamily root ·.1), parameters.filter (! inFamily root ·.1))

example : segments? "filter[age][gte]" "filter" = some ["age", "gte"] := by decide
example : segments? "filters[a]" "filter" = none := by decide

end Parameters

end DocumentQuery
