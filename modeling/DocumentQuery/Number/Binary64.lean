/-! Double-precision numbers, as their 64 bits. A number that is not a NaN is
ordered by its sign and magnitude bits alone, so `rank` reads the order off the
bits; integers, ratios and decimals are rounded to the nearest number, a half to
the one with an even last bit.
-/

set_option autoImplicit false

namespace DocumentQuery

structure Binary64 where
  bits : UInt64
  deriving DecidableEq, Repr

namespace Binary64

def magnitude (x : Binary64) : Nat :=
  x.bits.toNat % (1 <<< 63)

def isNegative (x : Binary64) : Bool :=
  1 <<< 63 ≤ x.bits.toNat

def infinite : Nat :=
  2047 <<< 52

def isNaN (x : Binary64) : Bool :=
  infinite < x.magnitude

def ofMagnitude (negative : Bool) (magnitude : Nat) : Binary64 :=
  ⟨UInt64.ofNat (magnitude + if negative then 1 <<< 63 else 0)⟩

def nan : Binary64 :=
  ofMagnitude false (infinite + (1 <<< 51))

/-- Where a number stands in the order of all numbers; both zeros stand at zero. -/
def rank (x : Binary64) : Int :=
  if x.isNegative then -(x.magnitude : Int) else x.magnitude

def compare? (x y : Binary64) : Option Ordering :=
  -- A NaN has no place in the order.
  if x.isNaN || y.isNaN then none else some (compare x.rank y.rank)

/-- A quotient rounded to the nearest integer, a half to the even one. -/
def roundQuotient (num den : Nat) : Nat :=
  let floor := num / den
  let rest := 2 * (num % den)
  if rest < den ∨ (rest = den ∧ floor % 2 = 0) then floor else floor + 1

def scaleDown (num den : Nat) (exponent : Int) : Nat × Nat :=
  if exponent < 0 then (num <<< exponent.natAbs, den) else (num, den <<< exponent.natAbs)

def floorLog2 (num den : Nat) : Int :=
  let guess : Int := (num.log2 : Int) - den.log2
  let (scaledNum, scaledDen) := scaleDown num den guess
  if scaledNum < scaledDen then guess - 1 else guess

/-- The magnitude nearest to a ratio. A significand has 53 bits, fewer near zero,
and what exceeds the largest number is infinite. -/
def magnitudeOfRatio (num den : Nat) : Nat :=
  if num = 0 then 0 else
    -- The exponent of the last bit: 52 below the leading one, no finer than the smallest number.
    let exponent := max (floorLog2 num den - 52) (-1074)
    let (scaledNum, scaledDen) := scaleDown num den exponent
    -- Adding carries a significand that rounds up to a power of two into the exponent.
    min (roundQuotient scaledNum scaledDen + ((exponent + 1074).natAbs <<< 52)) infinite

def ofInt (n : Int) : Binary64 :=
  ofMagnitude (n < 0) (magnitudeOfRatio n.natAbs 1)

def ofDecimal (negative : Bool) (digits : Nat) (exponent : Int) : Binary64 :=
  ofMagnitude negative <|
    -- Far exponents are settled by size alone.
    if digits = 0 ∨ exponent + digits.log2 < -400 then 0
    else if 400 < exponent then infinite
    else if exponent < 0 then magnitudeOfRatio digits (Nat.pow 10 exponent.natAbs)
    else magnitudeOfRatio (digits * Nat.pow 10 exponent.natAbs) 1

example : ofInt 3 = ⟨0x4008000000000000⟩ := by decide
example : ofInt ((1 <<< 53) + 1) = ofInt (1 <<< 53) := by decide
example : ofDecimal false 1 (-1) = ⟨0x3FB999999999999A⟩ := by decide

end Binary64

end DocumentQuery
