import DocumentQuery.Calendar.FullForm
import DocumentQuery.Text.Blank

/-! Points in time, counted in milliseconds from the start of 1970 in UTC. Clients
write a full timestamp, or a plain date that stands for its midnight in UTC.
Serialized data writes full timestamps only, under rules of its own.
-/

set_option autoImplicit false

namespace DocumentQuery

open Text Calendar

structure Timestamp where
  millis : Int64
  deriving DecidableEq, Repr

namespace Timestamp

/-- Reads a client's timestamp: a letter or a single space divides date and time, and
what lies below a millisecond is cut. -/
def readFull? (text : List Char) : Option Timestamp :=
  let divides (c : Char) := c = 'T' || c = 't' || c = ' '
  (FullForm.read? divides (fun c => c = '-' || c = '−') text).map fun form =>
    ⟨Int64.ofInt (form.seconds * 1000 + form.subsecond 3)⟩

/-- Reads a timestamp of serialized data: any ASCII character divides date and time, and the count
of milliseconds is rounded toward the start of 1970. -/
def readSerialized? (text : List Char) : Option Timestamp := do
  let form ← FullForm.read? (·.toNat < 128) (· == '-') text
  -- A sixtieth second is accepted where calendars insert one, and stands for the last
  -- nanosecond before it ends.
  if form.second = 60 && ! form.isLeapSecond then none
  let part : Int := if form.second = 60 then -1 else form.subsecond 9
  return ⟨Int64.ofInt ((form.seconds * 1000000000 + part).tdiv 1000000)⟩

def hasYear (year : Int) : Bool :=
  -262143 ≤ year && year ≤ 262142

/-- Reads the year of a plain date; more than four digits need a sign. -/
def year? (text : List Char) : Option (Int × List Char) :=
  match skipBlanks text with
  | '-' :: rest => (digits? 1 rest.length rest).map fun (n, rest) => (-(n : Int), rest)
  | '+' :: rest => (digits? 1 rest.length rest).map fun (n, rest) => ((n : Int), rest)
  | rest => (digits? 1 4 rest).map fun (n, rest) => ((n : Int), rest)

def readDate? (text : List Char) : Option Timestamp := do
  let (year, rest) ← year? text
  -- Blanks may precede each number, and months and days may have one digit.
  let (month, rest) ← digits? 1 2 (skipBlanks (← mark? (· == '-') rest))
  let (day, rest) ← digits? 1 2 (skipBlanks (← mark? (· == '-') rest))
  let date : Date := ⟨year, month, day⟩
  if rest.isEmpty && hasYear year && date.isValid then
    return ⟨Int64.ofInt (date.dayNumber * 86400000)⟩
  else none

/-- Reads a timestamp, or a date that stands for its midnight. -/
def read? (text : String) : Option Timestamp :=
  readFull? text.toList <|> readDate? text.toList

def yearText (year : Int) : String :=
  (if year < 0 then "-" else "") ++ paddedText 4 year.natAbs

def fractionText (millis : Nat) : String :=
  let digits := fixedDigits 10 3 millis
  let short := (digits.reverse.dropWhile (· == 0)).reverse
  String.ofList ((if short.isEmpty then [0] else short).map digitChar)

/-- The display of a timestamp: date, time and offset, or the bare count of milliseconds
where the year has more than four digits. -/
def text (time : Timestamp) : String :=
  let millis := time.millis.toInt
  let date := Date.ofDayNumber (millis / 86400000)
  if date.year.natAbs ≤ 9999 then
    let ofDay := (millis % 86400000).natAbs
    yearText date.year ++ "-" ++ paddedText 2 date.month ++ "-" ++ paddedText 2 date.day ++ " " ++
      natText (ofDay / 3600000) ++ ":" ++ paddedText 2 (ofDay / 60000 % 60) ++ ":" ++
      paddedText 2 (ofDay / 1000 % 60) ++ "." ++ fractionText (ofDay % 1000) ++ " +00:00:00"
  else intText millis

example : read? "1969-12-31T23:59:60.5Z" = some ⟨500⟩ := by decide
example : read? " 2024- 1-2" = some ⟨1704153600000⟩ := by decide
example : read? "2024-02-30" = none := by decide

end Timestamp

end DocumentQuery
