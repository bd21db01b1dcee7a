import DocumentQuery.Number.Literal

/-! Decimal floating-point numbers with thirty-four digits, the 128 bit format of
IEEE 754. A number keeps the exponent it is written with, so `1.50` and `1.5` are two
decimals. Reading never rounds: digits that do not fit may be cut only if they are zeros.
-/

set_option autoImplicit false

namespace DocumentQuery

open Text

inductive Decimal where
  | nan
  | infinite (negative : Bool)
  /-- The coefficient times a power of ten. -/
  | finite (negative : Bool) (coefficient : Nat) (exponent : Int)
  deriving DecidableEq, Repr

namespace Decimal

def precision : Nat := 34

def leastExponent : Int := -6176

def greatestExponent : Int := 6111

/-- Cuts digits to a length, when only zeros are lost. -/
def cut? (length : Nat) (digits : List Char) : Option (List Char) :=
  if (digits.drop length).all (· == '0') then some (digits.take length) else none

def significant (digits : List Char) : List Char :=
  match digits.dropWhile (· == '0') with
  | [] => digits.take 1
  | rest => rest

def fitPrecision? (digits : List Char) (exponent : Int) : Option (List Char × Int) :=
  (cut? precision digits).map (·, exponent + (digits.length - precision : Nat))

def fitExponent? (digits : List Char) (exponent : Int) : Option (List Char × Int) :=
  if digits = ['0'] then some (digits, max leastExponent (min greatestExponent exponent))
  else if exponent < leastExponent then
    let excess := (leastExponent - exponent).toNat
    if digits.length < excess then none
    else (cut? (digits.length - excess) digits).map (·, leastExponent)
  else if greatestExponent < exponent then
    let excess := (exponent - greatestExponent).toNat
    if precision < digits.length + excess then none
    else some (digits ++ List.replicate excess '0', greatestExponent)
  else some (digits, exponent)

def coefficient? (digits : List Char) : Option Nat :=
  -- A plus sign may stand before them, after the sign of the decimal.
  let unsigned :=
    match digits with
    | '+' :: rest => rest
    | rest => rest
  match leadingDigits 10 unsigned with
  | ([], _) | (_, _ :: _) => none
  | (values, []) => some (ofDigits 10 values)

def isExponentMark (c : Char) : Bool :=
  c = 'e' || c = 'E'

def readFinite? (negative : Bool) (text : List Char) : Option Decimal := do
  let written ← Number.exponent? (text.dropWhile (! isExponentMark ·))
  let mantissa := text.takeWhile (! isExponentMark ·)
  let whole := mantissa.takeWhile (· != '.')
  let fraction := (mantissa.dropWhile (· != '.')).drop 1
  let exponent := written - fraction.length
  -- The exponent has to fit sixteen bits, as it is written and after the point is moved.
  if mantissa.isEmpty ∨ Int16.maxValue.toInt < written ∨ exponent < Int16.minValue.toInt then none
  let (digits, exponent) ← fitPrecision? (significant (whole ++ fraction)) exponent
  let (digits, exponent) ← fitExponent? digits exponent
  return .finite negative (← coefficient? digits) exponent

/-- Reads a whole text as a decimal: a number, or a word of any case. -/
def read? (text : String) : Option Decimal :=
  let (negative, unsigned) := Number.sign text.toList
  let word := String.ofList (unsigned.map Char.toLower)
  if word = "nan" ∨ word = "snan" then some .nan
  else if word = "inf" ∨ word = "infinity" then some (.infinite negative)
  else readFinite? negative unsigned

def ofBits (bits : Nat) : Decimal :=
  let negative := bits.testBit 127
  let kind := (bits >>> 122) % 32
  let exponentAt (place : Nat) : Int := ((bits >>> place) % (1 <<< 14) : Nat) + leastExponent
  if kind = 31 then .nan
  else if kind = 30 then .infinite negative
  else if 24 ≤ kind then .finite negative 0 (exponentAt 111)
  else
    let coefficient := bits % (1 <<< 113)
    -- A coefficient beyond the precision counts as zero.
    .finite negative (if coefficient < Nat.pow 10 precision then coefficient else 0)
      (exponentAt 113)

/-- The display of a coefficient with an exponent: in positional notation when the
exponent is not positive and at most five zeros follow the point, else with one digit
before the point. -/
def finiteText (coefficient : Nat) (exponent : Int) : String :=
  let digits := (decimalDigits coefficient).map digitChar
  let leading := exponent + digits.length - 1
  if exponent = 0 then String.ofList digits
  else if exponent < 0 ∧ -6 ≤ leading then
    let places := exponent.natAbs
    let filled := List.replicate (places + 1 - digits.length) '0' ++ digits
    let whole := filled.take (filled.length - places)
    String.ofList (whole ++ '.' :: filled.drop whole.length)
  else
    let fraction := if digits.length = 1 then [] else '.' :: digits.drop 1
    let sign := if 0 < leading then "+" else ""
    String.ofList (digits.take 1 ++ fraction) ++ "E" ++ sign ++ intText leading

def text : Decimal → String
  | .nan => "NaN"
  | .infinite negative => (if negative then "-" else "") ++ "Infinity"
  | .finite negative coefficient exponent =>
    (if negative then "-" else "") ++ finiteText coefficient exponent

example : (read? "1.50").map text = some "1.50" := by decide +kernel
example : (read? "-0.0000001").map text = some "-1E-7" := by decide +kernel
example : (read? "12E3").map text = some "1.2E+4" := by decide +kernel
example : read? "1e" = none := by decide +kernel

end Decimal

end DocumentQuery
