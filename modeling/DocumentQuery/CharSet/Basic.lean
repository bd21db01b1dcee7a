/-! Sets of characters as intervals of code points. The intervals of a set ascend
and leave gaps between them, so that each set has one form only and the number of
its intervals means something.
-/

set_option autoImplicit false

namespace DocumentQuery

structure Interval where
  first : Nat
  last : Nat
  deriving DecidableEq, Repr

structure CharSet where
  intervals : List Interval
  deriving DecidableEq, Repr

namespace CharSet

def maxCode : Nat := 0x10FFFF

def empty : CharSet := ⟨[]⟩

def any : CharSet := ⟨[⟨0, maxCode⟩]⟩

def interval (first last : Nat) : CharSet := ⟨[⟨first, last⟩]⟩

def char (c : Char) : CharSet := interval c.toNat c.toNat

def joinFrom (current : Interval) : List Interval → List Interval
  | [] => [current]
  | next :: rest =>
    if next.first ≤ current.last + 1 then
      joinFrom ⟨current.first, max current.last next.last⟩ rest
    else current :: joinFrom next rest

def ofAscending : List Interval → CharSet
  | [] => empty
  | first :: rest => ⟨joinFrom first rest⟩

def ofCodes (codes : List Nat) : CharSet :=
  ofAscending ((codes.mergeSort (· ≤ ·)).map fun code => ⟨code, code⟩)

def holds : List Interval → Nat → Bool
  | [], _ => false
  | next :: rest, code =>
    if code < next.first then false else code ≤ next.last || holds rest code

def contains (set : CharSet) (code : Nat) : Bool :=
  holds set.intervals code

/-- Puts an interval in its place among ascending ones; `rest` does the same with those that
come after it. -/
def place (next : Interval) (rest : List Interval → List Interval) :
    List Interval → List Interval
  | [] => next :: rest []
  | other :: others =>
    if next.first ≤ other.first then next :: rest (other :: others)
    else other :: place next rest others

def merge : List Interval → List Interval → List Interval
  | [], others => others
  | next :: rest, others => place next (merge rest) others

def union (a b : CharSet) : CharSet :=
  ofAscending (merge a.intervals b.intervals)

def gapsFrom (next : Nat) : List Interval → List Interval
  | [] => if next ≤ maxCode then [⟨next, maxCode⟩] else []
  | taken :: rest =>
    if next < taken.first then ⟨next, taken.first - 1⟩ :: gapsFrom (taken.last + 1) rest
    else gapsFrom (taken.last + 1) rest

def complement (a : CharSet) : CharSet :=
  ⟨gapsFrom 0 a.intervals⟩

def intersection (a b : CharSet) : CharSet :=
  (a.complement.union b.complement).complement

def difference (a b : CharSet) : CharSet :=
  a.intersection b.complement

def symmetricDifference (a b : CharSet) : CharSet :=
  (a.union b).difference (a.intersection b)

def unions (sets : List CharSet) : CharSet :=
  sets.foldl union empty

def isAscii (set : CharSet) : Bool :=
  set.intervals.all fun span => span.last < 128

def single? (set : CharSet) : Option Nat :=
  match set.intervals with
  | [span] => if span.first = span.last then some span.first else none
  | _ => none

@[simp] theorem contains_empty (code : Nat) : empty.contains code = false := rfl

@[simp] theorem contains_interval (first last code : Nat) :
    (interval first last).contains code = (decide (first ≤ code) && decide (code ≤ last)) := by
  by_cases below : code < first
  · simp [interval, contains, holds, below, Nat.not_le_of_lt below]
  · simp [interval, contains, holds, below, Nat.le_of_not_lt below]

example : (interval 97 99).union (interval 100 105) = interval 97 105 := by decide

example : ((interval 97 122).difference (char 'e')).intervals = [⟨97, 100⟩, ⟨102, 122⟩] := by
  decide

example : (interval 0 96).complement = interval 97 maxCode := by decide

end CharSet

end DocumentQuery
