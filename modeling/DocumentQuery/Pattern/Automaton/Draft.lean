import DocumentQuery.Pattern.Automaton.Bytes

/-! Automata that read the bytes of a text, as far as their size goes. Nothing is
kept of a state but its number. A set of characters shares states: read forwards,
the ends of its byte sequences, and read backwards, which turns the sequences
round, their beginnings. What can be shared is looked up in tables of a fixed
number of places, in which an entry makes way for the next one of its place.
-/

set_option autoImplicit false

namespace DocumentQuery.Pattern

/-- A step of an automaton: the bytes it takes and the number of the state it leads to. -/
structure Transition where
  bytes : ByteRange
  target : Nat
  deriving DecidableEq, Repr

/-- A state that may be shared, by the steps from it. A state that is read backwards has one. -/
structure Shared where
  /-- Which of the sets the state belongs to; states of different sets are not shared. -/
  owner : Nat
  steps : List Transition
  state : Nat
  deriving DecidableEq, Repr, Inhabited

structure Draft where
  /-- The number of its states. -/
  states : Nat := 0
  /-- The room that the steps of its states take, in bytes. -/
  room : Nat := 0
  /-- The number of sets of characters so far. -/
  sets : Nat := 0
  forwardPlaces : Array Shared := .replicate 10000 ⟨0, [], 0⟩
  backwardPlaces : Array Shared := .replicate 1000 ⟨0, [], 0⟩

namespace Draft

def bytes (draft : Draft) : Nat :=
  32 * draft.states + draft.room

def budget : Nat := 10 <<< 20

def checked? (draft : Draft) : Option Draft :=
  if draft.bytes ≤ budget then some draft else none

def add (draft : Draft) (states room : Nat) : Draft :=
  { draft with states := draft.states + states, room := draft.room + room }

def alternativeRoom : Nat := 4

def stepRoom : Nat := 8

def mix (hash : UInt64) (number : Nat) : UInt64 :=
  (hash ^^^ number.toUInt64) * 1099511628211

def hashStart : UInt64 := 14695981039346656037

def forwardPlace (steps : List Transition) : Nat :=
  (steps.foldl (fun hash step =>
    mix (mix (mix hash step.bytes.first) step.bytes.last) step.target) hashStart).toNat % 10000

def backwardPlace (step : Transition) : Nat :=
  (mix (mix (mix hashStart step.target) step.bytes.first) step.bytes.last).toNat % 1000

/-- A state with some steps: one of the current set that has them already, or a new one. -/
def shareForward (draft : Draft) (steps : List Transition) : Nat × Draft :=
  let place := forwardPlace steps
  let found := draft.forwardPlaces.getD place default
  if found.owner = draft.sets ∧ found.steps = steps then (found.state, draft)
  else
    let state := draft.states
    let draft := draft.add 1 (stepRoom * steps.length)
    (state, { draft with
      forwardPlaces := draft.forwardPlaces.setIfInBounds place ⟨draft.sets, steps, state⟩ })

def shareBackward (draft : Draft) (step : Transition) : Nat × Draft :=
  let place := backwardPlace step
  let found := draft.backwardPlaces.getD place default
  if found.owner = draft.sets ∧ found.steps = [step] then (found.state, draft)
  else
    let state := draft.states
    let draft := draft.add 1 0
    (state, { draft with
      backwardPlaces := draft.backwardPlaces.setIfInBounds place ⟨draft.sets, [step], state⟩ })

def addForward (target : Nat) :
    (depth : Nat) → List (List ByteRange) → Draft → Nat × Draft
  | 0, _, draft => (target, draft)
  | depth + 1, sequences, draft =>
    if sequences.all List.isEmpty then (target, draft)
    else
      -- Sequences that start with the same range go on from a common state; no sequence is longer
      -- than four ranges.
      let groups := sequences.splitBy fun a b => a.head? == b.head?
      let (steps, draft) := groups.foldl (fun (steps, draft) group =>
        match group.head?.bind List.head? with
        | none => (steps, draft)
        | some bytes =>
          let (state, draft) := addForward target depth (group.map List.tail) draft
          (steps ++ [⟨bytes, state⟩], draft)) ([], draft)
      draft.shareForward steps

/-- Adds the states of a byte sequence that is read backwards, from its beginning on. -/
def addBackward (state : Nat) : List ByteRange → Draft → Draft
  | [], draft => draft
  | bytes :: rest, draft =>
    let (state, draft) := draft.shareBackward ⟨bytes, state⟩
    addBackward state rest draft

def addSet (backward : Bool) (members : CharSet) (draft : Draft) : Draft :=
  let draft := { draft with sets := draft.sets + 1 }
  -- A set of ASCII characters takes one state besides the one behind it.
  if members.isAscii then draft.add 2 (stepRoom * members.intervals.length)
  else
    let sequences := members.intervals.flatMap byteRanges
    if backward then
      let behind := draft.states + 1
      let draft := draft.add 2 (alternativeRoom * sequences.length)
      sequences.foldl (fun draft sequence => addBackward behind sequence draft) draft
    else (addForward draft.states 5 sequences (draft.add 1 0)).2

end Draft

end DocumentQuery.Pattern
