import DocumentQuery.Number.Binary64
import DocumentQuery.Text.Numeral

/-! The text of a double-precision number: the fewest decimal digits that read
back as the number, and of those the nearest, always written positionally. All
comparisons are made on exact integers, so no digit is lost.
-/

set_option autoImplicit false

namespace DocumentQuery.Binary64

def significand (magnitude : Nat) : Nat × Int :=
  let exponent : Nat := magnitude >>> 52
  if exponent = 0 then (magnitude, -1074)
  else (magnitude % (1 <<< 52) + (1 <<< 52), (exponent : Int) - 1075)

/-- The numbers that round to one magnitude, as fractions over one denominator. -/
structure Neighbourhood where
  low : Nat
  middle : Nat
  high : Nat
  den : Nat
  /-- Whether the ends belong to it. -/
  closed : Bool

/-- All that rounds to a positive finite magnitude; below a power of two the gap is halved. -/
def neighbourhood (magnitude : Nat) : Neighbourhood :=
  let (m, e) := significand magnitude
  let below := if magnitude % (1 <<< 52) = 0 ∧ 1 <<< 53 ≤ magnitude then 1 else 2
  -- In quarters of the last bit, the middles between neighbours are whole numbers.
  let unit := 1 <<< e.natAbs
  let (factor, den) := if e < 0 then (1, 4 * unit) else (unit, 4)
  { low := (4 * m - below) * factor, middle := 4 * m * factor, high := (4 * m + 2) * factor,
    den := den, closed := m % 2 == 0 }

def Neighbourhood.contains (n : Neighbourhood) (digits : Nat) (exponent : Int) : Bool :=
  let shift := Nat.pow 10 exponent.natAbs
  let (value, scale) :=
    if exponent < 0 then (digits * n.den, shift) else (digits * shift * n.den, 1)
  let low := n.low * scale
  let high := n.high * scale
  if n.closed then low ≤ value && value ≤ high else low < value && value < high

/-- The digits on the grid of one power of ten that read back, the nearer of two, if any does. -/
def Neighbourhood.onGrid (n : Neighbourhood) (exponent : Int) : Option Nat :=
  let shift := Nat.pow 10 exponent.natAbs
  let (num, den) := if exponent < 0 then (n.middle * shift, n.den) else (n.middle, n.den * shift)
  let floor := num / den
  let rest := num % den
  let nearer := if 2 * rest < den then floor else floor + 1
  let other := if 2 * rest < den then floor + 1 else floor
  if n.contains nearer exponent then some nearer
  else if n.contains other exponent then some other
  else none

def Neighbourhood.coarsest (n : Neighbourhood) : (count : Nat) → Int → Nat × Int
  | 0, exponent => (n.middle / n.den, exponent)
  | count + 1, exponent =>
    match n.onGrid exponent with
    | some digits => if digits = 0 then n.coarsest count (exponent - 1) else (digits, exponent)
    | none => n.coarsest count (exponent - 1)

/-- The shortest decimal of a positive finite magnitude: its digits and a power of ten. -/
def shortest (magnitude : Nat) : Nat × Int :=
  let n := neighbourhood magnitude
  let size := (Text.decimalDigits (n.middle / n.den)).length
  -- The smallest number needs a grid of 324 places, so the count never runs out.
  n.coarsest (size + 1100) size

def positional (digits : Nat) (exponent : Int) : String :=
  let written := Text.natText digits
  if 0 ≤ exponent then written ++ String.ofList (List.replicate exponent.natAbs '0')
  else
    let places := exponent.natAbs
    let padded := (Text.paddedText (places + 1) digits).toList
    let whole := padded.length - places
    String.ofList (padded.take whole) ++ "." ++ String.ofList (padded.drop whole)

def stripZeros : (count : Nat) → Nat → Int → Nat × Int
  | 0, digits, exponent => (digits, exponent)
  | count + 1, digits, exponent =>
    if digits % 10 = 0 ∧ digits ≠ 0 then stripZeros count (digits / 10) (exponent + 1)
    else (digits, exponent)

def text (x : Binary64) : String :=
  if x.isNaN then "NaN"
  else
    let sign := if x.isNegative then "-" else ""
    if x.magnitude = infinite then sign ++ "inf"
    else if x.magnitude = 0 then sign ++ "0"
    else
      let (digits, exponent) := shortest x.magnitude
      let (digits, exponent) := stripZeros 20 digits exponent
      sign ++ positional digits exponent

end DocumentQuery.Binary64
