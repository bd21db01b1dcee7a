import DocumentQuery.Pattern.Syntax

/-! Matching. The places of a text are the gaps around its characters. A pattern
carries a set of places to the set of places that it can reach from them, and a
text matches when anything can be reached from anywhere. Sets of places are
numbers whose bit `i` stands for place `i`. Since only the existence of a match is
asked for, groups leave no trace and repetitions are neither greedy nor lazy.
-/

set_option autoImplicit false

namespace DocumentQuery.Pattern

abbrev Chars := Array Char

namespace Chars

def placesWhere (text : Chars) (holds : Nat → Bool) : Nat :=
  (List.range (text.size + 1)).foldl (fun set i => if holds i then set ||| (1 <<< i) else set) 0

def before (text : Chars) (set : CharSet) (i : Nat) : Bool :=
  i != 0 && (text[i - 1]?).any fun c => set.contains c.toNat

def after (text : Chars) (set : CharSet) (i : Nat) : Bool :=
  (text[i]?).any fun c => set.contains c.toNat

def follows (text : Chars) : List Char → Nat → Bool
  | [], _ => true
  | c :: rest, i => text[i]? == some c && text.follows rest (i + 1)

def holdsAt (text : Chars) (anchor : Anchor) (word : CharSet) (i : Nat) : Bool :=
  let first := i == 0
  let last := i == text.size
  let feed := CharSet.char '\n'
  let carriage := CharSet.char '\r'
  match anchor with
  | .textStart => first
  | .textEnd => last
  | .lineStart => first || text.before feed i
  | .lineEnd => last || text.after feed i
  | .lineStartCrlf => first || text.before feed i || (text.before carriage i && ! text.after feed i)
  | .lineEndCrlf => last || text.after carriage i || (text.after feed i && ! text.before carriage i)
  | .wordBoundary => text.before word i != text.after word i
  | .noWordBoundary => text.before word i == text.after word i
  | .wordStart => ! text.before word i && text.after word i
  | .wordEnd => text.before word i && ! text.after word i
  | .wordStartHalf => ! text.before word i
  | .wordEndHalf => ! text.after word i

end Chars

/-- A pattern on one text: what its parts are in terms of the places of the text. Places are
found out when they are first asked for, and once only. -/
inductive Walk where
  /-- Goes on by some characters from those of its places that are given. -/
  | advance (count : Nat) (places : Thunk Nat)
  | seq (first second : Walk)
  | either (first second : Walk)
  /-- The rounds that have to be made, and those that may follow. -/
  | rounds (walk : Walk) (must may : Nat)

/-- Takes a step `count` times, or until it changes nothing. -/
def repeatStep (step : Nat → Nat) : (count : Nat) → Nat → Nat
  | 0, set => set
  | count + 1, set =>
    let next := step set
    if next == set then set else repeatStep step count next

def Walk.reach : Walk → Nat → Nat
  | .advance count places, set => if set == 0 then 0 else (set &&& places.get) <<< count
  | .seq first second, set => reach second (reach first set)
  | .either first second, set => reach first set ||| reach second set
  | .rounds walk must may, set =>
    repeatStep (fun places => places ||| reach walk places) may (repeatStep (reach walk) must set)

namespace Node

/-- A pattern on a text. A repetition without an upper bound needs no more rounds than there are
places, since each round but the last reaches a new one. -/
def walkOn (text : Chars) : Node → Walk
  | .empty => .advance 0 (Thunk.mk fun _ => text.placesWhere fun _ => true)
  | .literal chars =>
    .advance chars.length (Thunk.mk fun _ => text.placesWhere (text.follows chars))
  | .oneOf members => .advance 1 (Thunk.mk fun _ => text.placesWhere (text.after members))
  | .anchor place word => .advance 0 (Thunk.mk fun _ => text.placesWhere (text.holdsAt place word))
  | .group _ node => walkOn text node
  | .repeated node least most _ =>
    .rounds (walkOn text node) least ((most.map (· - least)).getD (text.size + 1))
  | .seq first second => .seq (walkOn text first) (walkOn text second)
  | .either first second => .either (walkOn text first) (walkOn text second)

def occursIn (node : Node) (text : String) : Bool :=
  let chars : Chars := text.toList.toArray
  -- A match may start at every place, so all bits are set.
  (node.walkOn chars).reach (1 <<< (chars.size + 1) - 1) != 0

end Node

end DocumentQuery.Pattern
