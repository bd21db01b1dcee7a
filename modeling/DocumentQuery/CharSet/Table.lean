import DocumentQuery.CharSet.Basic
import DocumentQuery.Text.Numeral

/-! Sets of characters written as lists of hexadecimal code points and ranges:
`41-5A` is a range, and `100-12E/2` takes every second code point of one.
-/

set_option autoImplicit false

namespace DocumentQuery

/-- The code points `first`, `first + step`, and so on up to `last`. -/
structure Span where
  first : Nat
  last : Nat
  step : Nat
  deriving DecidableEq, Repr

namespace Span

def codes (span : Span) : List Nat :=
  (List.range ((span.last - span.first) / span.step + 1)).map fun i => span.first + i * span.step

def intervals (span : Span) : List Interval :=
  if span.step = 1 then [⟨span.first, span.last⟩] else span.codes.map fun code => ⟨code, code⟩

def contains (span : Span) (code : Nat) : Bool :=
  span.first ≤ code && code ≤ span.last && (code - span.first) % span.step == 0

/-- Reads a code point, a range, or some code points of a range. -/
def read? (text : List Char) : Option (Span × List Char) :=
  match Text.leadingDigits 16 text with
  | ([], _) => none
  | (first, '-' :: rest) =>
    let (last, rest) := Text.leadingDigits 16 rest
    let (step, rest) := match rest with
      | '/' :: rest => Text.leadingDigits 10 rest
      | rest => ([1], rest)
    some (⟨Text.ofDigits 16 first, Text.ofDigits 16 last, Text.ofDigits 10 step⟩, rest)
  | (first, rest) => some (⟨Text.ofDigits 16 first, Text.ofDigits 16 first, 1⟩, rest)

end Span

def tableItems (lines : List String) : List (List Char) :=
  lines.flatMap fun line => line.toList.splitOn ' '

namespace CharSet

def ofLines (lines : List String) : CharSet :=
  ofAscending ((tableItems lines).flatMap fun item =>
    ((Span.read? item).map (·.1.intervals)).getD [])

def spans (line : String) : CharSet := ofLines [line]

example : (ofLines ["41-5A 5F", "100-104/2"]).intervals =
    [⟨65, 90⟩, ⟨95, 95⟩, ⟨256, 256⟩, ⟨258, 258⟩, ⟨260, 260⟩] := by decide

end CharSet

end DocumentQuery
