import DocumentQuery.Calendar.Date
import DocumentQuery.Text.Numeral

/-! The full form of a point in time, after RFC 3339: a date, a time of day with an
optional fraction, and an offset from UTC. Readers differ in what may divide the date
from the time and which characters are a minus sign.
-/

set_option autoImplicit false

namespace DocumentQuery.Calendar

open Text

def digits? (least most : Nat) (text : List Char) : Option (Nat × List Char) :=
  let (values, _) := leadingDigits 10 (text.take most)
  if values.length < least then none else some (ofDigits 10 values, text.drop values.length)

def mark? (accepts : Char → Bool) : List Char → Option (List Char)
  | c :: rest => if accepts c then some rest else none
  | [] => none

structure FullForm where
  date : Date
  hour : Nat
  minute : Nat
  /-- The second, up to sixty. -/
  second : Nat
  /-- The digits of the part of a second. -/
  fraction : List Nat
  /-- The minutes by which the clock is ahead of UTC. -/
  offset : Int
  deriving DecidableEq, Repr

namespace FullForm

def fraction? : List Char → Option (List Nat × List Char)
  | '.' :: text =>
    match leadingDigits 10 text with
    | ([], _) => none
    | (values, rest) => some (values, rest)
  | text => some ([], text)

/-- Reads the offset from UTC in minutes: `Z`, or hours and minutes with a sign. -/
def offset? (isMinus : Char → Bool) : List Char → Option (Int × List Char)
  | [] => none
  | sign :: rest => do
    if sign = 'Z' ∨ sign = 'z' then return (0, rest)
    if sign ≠ '+' ∧ ! isMinus sign then none
    let (hours, rest) ← digits? 2 2 rest
    let (minutes, rest) ← digits? 2 2 (← mark? (· == ':') rest)
    if 23 < hours ∨ 59 < minutes then none
    let size : Int := hours * 60 + minutes
    return (if sign = '+' then size else -size, rest)

def read? (divides isMinus : Char → Bool) (text : List Char) : Option FullForm := do
  let (year, rest) ← digits? 4 4 text
  let (month, rest) ← digits? 2 2 (← mark? (· == '-') rest)
  let (day, rest) ← digits? 2 2 (← mark? (· == '-') rest)
  let (hour, rest) ← digits? 2 2 (← mark? divides rest)
  let (minute, rest) ← digits? 2 2 (← mark? (· == ':') rest)
  let (second, rest) ← digits? 2 2 (← mark? (· == ':') rest)
  let (fraction, rest) ← fraction? rest
  let (offset, rest) ← offset? isMinus rest
  let date : Date := ⟨year, month, day⟩
  if rest.isEmpty && date.isValid && hour ≤ 23 && minute ≤ 59 && second ≤ 60 then
    return ⟨date, hour, minute, second, fraction, offset⟩
  else none

/-- The seconds from the start of 1970 in UTC. A sixtieth second is the first of the next minute. -/
def seconds (form : FullForm) : Int :=
  (form.date.dayNumber * 1440 + form.hour * 60 + form.minute - form.offset) * 60 + form.second

/-- The part of a second in units of which `10 ^ places` make one; what lies below is cut. -/
def subsecond (form : FullForm) (places : Nat) : Nat :=
  ofDigits 10 ((form.fraction ++ List.replicate places 0).take places)

/-- Whether a sixtieth second stands where calendars insert one: at the end of a month in UTC. -/
def isLeapSecond (form : FullForm) : Bool :=
  form.second = 60 && form.seconds % 86400 = 0 && (Date.ofDayNumber (form.seconds / 86400)).day = 1

end FullForm

end DocumentQuery.Calendar
