import DocumentQuery.Number.Binary64
import DocumentQuery.Text.Numeral

/-! Numbers as clients write them. Integers are decimal digits with an optional
sign and must fit 64 bits. Other numbers may have a fraction and an exponent, or
are the words for infinity and for no number at all, in any case.
-/

set_option autoImplicit false

namespace DocumentQuery.Number

open Text

def sign : List Char → Bool × List Char
  | '-' :: rest => (true, rest)
  | '+' :: rest => (false, rest)
  | text => (false, text)

def fitInt64? (n : Int) : Option Int64 :=
  if Int64.minValue.toInt ≤ n ∧ n ≤ Int64.maxValue.toInt then some (Int64.ofInt n) else none

def readInt64? (text : List Char) : Option Int64 :=
  let (negative, unsigned) := sign text
  match leadingDigits 10 unsigned with
  | ([], _) | (_, _ :: _) => none
  | (digits, []) =>
    let size : Int := ofDigits 10 digits
    fitInt64? (if negative then -size else size)

/-- The exponent at the end of a number; none at all counts as zero. -/
def exponent? : List Char → Option Int
  | [] => some 0
  | mark :: rest =>
    if mark = 'e' ∨ mark = 'E' then
      let (negative, unsigned) := sign rest
      match leadingDigits 10 unsigned with
      | ([], _) | (_, _ :: _) => none
      | (digits, []) =>
        let size : Int := ofDigits 10 digits
        some (if negative then -size else size)
    else none

/-- Reads digits with an optional fraction and exponent; at least one digit is needed. -/
def decimal? (negative : Bool) (text : List Char) : Option Binary64 :=
  let (whole, rest) := leadingDigits 10 text
  let (fraction, rest) :=
    match rest with
    | '.' :: rest => leadingDigits 10 rest
    | rest => ([], rest)
  if whole.isEmpty && fraction.isEmpty then none
  else (exponent? rest).map fun exponent =>
    .ofDecimal negative (ofDigits 10 (whole ++ fraction)) (exponent - fraction.length)

def readBinary64? (text : List Char) : Option Binary64 :=
  let (negative, unsigned) := sign text
  let word := String.ofList (unsigned.map Char.toLower)
  if word = "inf" ∨ word = "infinity" then some (.ofMagnitude negative Binary64.infinite)
  else if word = "nan" then some .nan
  else decimal? negative unsigned

end DocumentQuery.Number
