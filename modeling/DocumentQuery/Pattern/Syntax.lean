import DocumentQuery.CharSet.Basic

/-! Patterns: what they are made of. They are built by functions that keep them in a
plain form: neighbouring characters stand in one literal, alternative characters in
one set, and what alternatives start with in common stands before them. The form
decides how much room a pattern takes, not what it matches.
-/

set_option autoImplicit false

namespace DocumentQuery.Pattern

inductive Anchor where
  | textStart
  | textEnd
  | lineStart
  | lineEnd
  /-- A line start where a carriage return with or without a line feed ends a line too. -/
  | lineStartCrlf
  | lineEndCrlf
  | wordBoundary
  | noWordBoundary
  | wordStart
  | wordEnd
  | wordStartHalf
  | wordEndHalf
  deriving DecidableEq, Repr

/-- A pattern. Sequences and alternatives of more than two lean to the right. -/
inductive Node where
  | empty
  /-- Some characters, at least one. -/
  | literal (text : List Char)
  | oneOf (members : CharSet)
  /-- An anchor, with the set of the characters of words. -/
  | anchor (anchor : Anchor) (word : CharSet)
  /-- A group, with its number among all groups. -/
  | group (number : Nat) (node : Node)
  | repeated (node : Node) (least : Nat) (most : Option Nat) (greedy : Bool)
  | seq (first second : Node)
  | either (first second : Node)
  deriving DecidableEq, Repr

namespace Node

def size : Node → Nat
  | .empty | .literal _ | .oneOf _ | .anchor _ _ => 1
  | .group _ node | .repeated node _ _ _ => 1 + size node
  | .seq first second | .either first second => 1 + size first + size second

def matchesOnlyEmpty : Node → Bool
  | .empty | .anchor _ _ => true
  | .literal _ | .oneOf _ => false
  | .group _ node => matchesOnlyEmpty node
  | .repeated node _ most _ => most.isSome && matchesOnlyEmpty node
  | .seq first second | .either first second => matchesOnlyEmpty first && matchesOnlyEmpty second

/-- The least number of characters that a pattern takes, if each part of it can match at all. -/
def leastLength? : Node → Option Nat
  | .empty | .anchor _ _ => some 0
  | .literal text => some text.length
  | .oneOf members => if members.intervals.isEmpty then none else some 1
  | .group _ node => leastLength? node
  | .repeated node least _ _ => (leastLength? node).map (· * least)
  | .seq first second => do return (← leastLength? first) + (← leastLength? second)
  | .either first second => do return min (← leastLength? first) (← leastLength? second)

def startsAtTextStart : Node → Bool
  | .anchor place _ => place = .textStart
  | .empty | .literal _ | .oneOf _ => false
  | .group _ node => startsAtTextStart node
  | .repeated node least _ _ => least != 0 && startsAtTextStart node
  | .seq first second =>
    startsAtTextStart first || (matchesOnlyEmpty first && startsAtTextStart second)
  | .either first second => startsAtTextStart first && startsAtTextStart second

def endsAtTextEnd : Node → Bool
  | .anchor place _ => place = .textEnd
  | .empty | .literal _ | .oneOf _ => false
  | .group _ node => endsAtTextEnd node
  | .repeated node least _ _ => least != 0 && endsAtTextEnd node
  | .seq first second => endsAtTextEnd second || (matchesOnlyEmpty second && endsAtTextEnd first)
  | .either first second => endsAtTextEnd first && endsAtTextEnd second

def ofSet (members : CharSet) : Node :=
  -- A set of one character is a literal.
  match members.single? with
  | some code => if code.isValidChar then .literal [Char.ofNat code] else .oneOf members
  | none => .oneOf members

def elements : Node → List Node
  | .empty => []
  | .seq first second => elements first ++ elements second
  | node => [node]

def joinLiterals : List Node → List Node
  | [] => []
  | .literal text :: rest =>
    match joinLiterals rest with
    | .literal more :: rest => .literal (text ++ more) :: rest
    | rest => .literal text :: rest
  | node :: rest => node :: joinLiterals rest

def ofElements : List Node → Node
  | [] => .empty
  | [node] => node
  | node :: rest => .seq node (ofElements rest)

def sequence (nodes : List Node) : Node :=
  ofElements (joinLiterals (nodes.flatMap elements))

def branches : Node → List Node
  | .either first second => branches first ++ branches second
  | node => [node]

def ofBranches : List Node → Node
  | [] => .oneOf .empty
  | [node] => node
  | node :: rest => .either node (ofBranches rest)

/-- The characters that some literals of one character each stand for. -/
def characters? (nodes : List Node) : Option (List Char) :=
  nodes.mapM fun
    | .literal [c] => some c
    | _ => none

def sets? (nodes : List Node) : Option (List CharSet) :=
  nodes.mapM fun
    | .oneOf members => some members
    | _ => none

def commonStart : List Node → List Node → List Node
  | a :: as, b :: bs => if a = b then a :: commonStart as bs else []
  | _, _ => []

def sharedStart : List (List Node) → List Node
  | [] => []
  | first :: rest => rest.foldl commonStart first

def sequenceElements : Node → List Node
  | .seq first second => elements (.seq first second)
  | _ => []

def alternativesWith : (fuel : Nat) → List Node → Node
  | 0, nodes => ofBranches nodes
  -- Each call for what follows a common start has smaller patterns, so that the fuel need not
  -- exceed the size of the patterns.
  | fuel + 1, nodes =>
    match nodes.flatMap branches with
    | [node] => node
    | nodes =>
      match characters? nodes, sets? nodes with
      | some chars, _ => ofSet (.unions (chars.map .char))
      | none, some sets => ofSet (.unions sets)
      | none, none =>
        let sequences := nodes.map sequenceElements
        match sharedStart sequences with
        | [] => ofBranches nodes
        | shared =>
          let rests := sequences.map fun elements => sequence (elements.drop shared.length)
          sequence (shared ++ [alternativesWith fuel rests])

def alternatives (nodes : List Node) : Node :=
  alternativesWith ((nodes.map size).foldl (· + ·) 0) nodes

def repetition (node : Node) (least : Nat) (most : Option Nat) (greedy : Bool) : Node :=
  let (least, most) :=
    -- What can only match the empty text is not needed twice.
    if node.matchesOnlyEmpty then (min least 1, some (min (most.getD 1) 1)) else (least, most)
  if most = some 0 then .empty
  else if least = 1 ∧ most = some 1 then node
  else .repeated node least most greedy

example : sequence [.literal ['a'], .empty, .seq (.literal ['b']) (.group 1 .empty)] =
    .seq (.literal ['a', 'b']) (.group 1 .empty) := by decide

example : repetition (.anchor .wordBoundary .empty) 3 none true = .anchor .wordBoundary .empty := by
  decide

end Node

end DocumentQuery.Pattern
