import DocumentQuery.Pattern.Automaton.Draft
import DocumentQuery.Pattern.Syntax

/-! The size of patterns. A pattern is of use only if two automata for it, one that
reads forwards and finds its groups and one that reads backwards, keep within a
budget. A counted repetition is written out, so that short patterns may be too big.
-/

set_option autoImplicit false

namespace DocumentQuery.Pattern

namespace Draft

/-- The same addition several times, or up to the first one that exceeds the budget. -/
def repeated? (add : Draft → Option Draft) : (count : Nat) → Draft → Option Draft
  | 0, draft => some draft
  | count + 1, draft => (add draft).bind (repeated? add count)

def addFork (draft : Draft) : Draft :=
  draft.add 1 (2 * alternativeRoom)

def following (byte : Nat) (texts : List (List Nat)) : List (List Nat) :=
  texts.filterMap fun text => if text.head? = some byte then some text.tail else none

/-- Adds a tree for some texts that start alike: a state for the branching, and one for the steps
that are told apart by their bytes. -/
def addTree : (depth : Nat) → List (List Nat) → Draft → Draft
  | 0, _, draft => draft
  | depth + 1, texts, draft =>
    if texts.all List.isEmpty then draft
    else
      -- Ends that come before anything else count as one.
      let texts := match texts with
        | [] :: rest => [] :: rest.dropWhile List.isEmpty
        | texts => texts
      -- A text that ends here keeps those before it from sharing with those after it.
      let parts := (texts.splitOn []).map fun part => (part, (part.filterMap List.head?).eraseDups)
      let draft := parts.foldl (fun draft (part, starts) =>
        starts.foldl (fun draft byte => addTree depth (following byte part) draft) draft) draft
      let steps := parts.map (·.2.length)
      let busy := steps.countP (0 < ·)
      draft.add (busy + 1)
        (stepRoom * (steps.filter (1 < ·)).sum + alternativeRoom * (busy + (parts.length - 1)))

end Draft

namespace Node

def literals? (nodes : List Node) : Option (List (List Char)) :=
  nodes.mapM fun
    | .literal text => some text
    | _ => none

def bytesRead (backward : Bool) (text : List Char) : List Nat :=
  let bytes := text.flatMap fun c => utf8Bytes c.toNat
  if backward then bytes.reverse else bytes

/-- Adds the states of a pattern. `index` counts the alternatives before it that it belongs to; the
states that branch to alternatives and join them come after the second one. -/
def addTo? (backward : Bool) : (index : Nat) → Node → Draft → Option Draft
  | index, .empty, draft => joined? index (draft.add 1 0)
  | index, .literal text, draft => joined? index (draft.add (bytesRead backward text).length 0)
  | index, .oneOf members, draft => joined? index (draft.addSet backward members)
  | index, .anchor _ _, draft => joined? index (draft.add 1 0)
  | index, .group _ node, draft => do
    if backward then joined? index (← addTo? backward 0 node draft)
    else
      -- A state stands on either side of what a group holds.
      joined? index ((← addTo? backward 0 node (draft.add 1 0)).add 1 0)
  | index, .seq first second, draft => do
    if backward then joined? index (← addTo? backward 0 first (← addTo? backward 0 second draft))
    else joined? index (← addTo? backward 0 second (← addTo? backward 0 first draft))
  | index, .either first second, draft => do
    match if index = 0 then literals? (branches (.either first second)) else none with
    | some texts =>
      let texts := texts.map (bytesRead backward)
      let depth := (texts.map List.length).foldl max 0
      ((draft.add 1 0).addTree (depth + 1) texts).checked?
    | none => addTo? backward (index + 1) second (← joined? index (← addTo? backward 0 first draft))
  | index, .repeated node least most _, draft => do
    let once := addTo? backward 0 node
    match least, most with
    | 0, some 1 => joined? index ((← once draft.addFork).add 1 0)
    | 0, none =>
      if (leastLength? node).any (0 < ·) then joined? index (← once draft.addFork)
      else
        -- What may be empty is repeated at least once, and all of it may be left out.
        joined? index (((← once draft).addFork.addFork).add 1 0)
    | least, none => joined? index (← Draft.repeated? once least draft).addFork
    | least, some most =>
      let exactly ← if least = 0 then (draft.add 1 0).checked? else Draft.repeated? once least draft
      if least = most then joined? index exactly
      else
        let optional (draft : Draft) := once draft.addFork
        joined? index (← Draft.repeated? optional (most - least) (exactly.add 1 0))
where
  joined? (index : Nat) (draft : Draft) : Option Draft :=
    (match index with
      | 0 => draft
      | 1 => draft.add 2 (2 * Draft.alternativeRoom)
      | _ => draft.add 0 Draft.alternativeRoom).checked?

/-- The automaton of a pattern. Unless it is tied to the end of the text where reading starts, it
may skip any bytes first. The pattern itself counts as a group. -/
def automaton? (backward : Bool) (node : Node) : Option Draft := do
  let tied := if backward then node.endsAtTextEnd else node.startsAtTextStart
  let skip := if tied then Draft.add {} 1 0 else (Draft.addFork {}).add 2 Draft.stepRoom
  let body ← addTo? backward 0 (.group 0 node) skip
  (body.add 1 0).checked?

/-- Whether both automata of a pattern keep within the budget. -/
def fits (node : Node) : Bool :=
  (node.automaton? false).isSome && (node.automaton? true).isSome

end Node

end DocumentQuery.Pattern
