/-! Days of the Gregorian calendar, extended to all years. Days are counted from
the first of January 1970, so that arithmetic on them is arithmetic on integers.
-/

set_option autoImplicit false

namespace DocumentQuery.Calendar

structure Date where
  year : Int
  month : Nat
  day : Nat
  deriving DecidableEq, Repr

def isLeap (year : Int) : Bool :=
  year % 4 = 0 && (year % 100 ≠ 0 || year % 400 = 0)

def monthLengths (year : Int) : List Nat :=
  [31, if isLeap year then 29 else 28, 31, 30, 31, 30, 31, 31, 30, 31, 30, 31]

def daysBeforeYear (year : Int) : Int :=
  365 * year + (year + 3) / 4 - (year + 99) / 100 + (year + 399) / 400

/-- The days between the start of year zero and the day that counts as zero. -/
def epoch : Int :=
  daysBeforeYear 1970

namespace Date

def isValid (date : Date) : Bool :=
  match (monthLengths date.year)[date.month - 1]? with
  | some length => 1 ≤ date.month && 1 ≤ date.day && date.day ≤ length
  | none => false

def dayNumber (date : Date) : Int :=
  let before : Nat := ((monthLengths date.year).take (date.month - 1)).foldl (· + ·) 0
  daysBeforeYear date.year + before + (date.day - 1 : Nat) - epoch

/-- The month and day of the day of a year, given the lengths of the months left. -/
def inYear (year : Int) : (month : Nat) → List Nat → Nat → Date
  | month, [], day => ⟨year, month, day + 1⟩
  | month, length :: rest, day =>
    if day < length then ⟨year, month, day + 1⟩ else inYear year (month + 1) rest (day - length)

def ofDayNumber (number : Int) : Date :=
  let days := number + epoch
  -- The mean length of a year comes within one year of the right one.
  let guess := days * 400 / 146097
  let year :=
    if days < daysBeforeYear guess then guess - 1
    else if daysBeforeYear (guess + 1) ≤ days then guess + 1
    else guess
  inYear year 1 (monthLengths year) (days - daysBeforeYear year).natAbs

example : (Date.mk 1970 1 1).dayNumber = 0 := by decide
example : (Date.mk 2024 2 29).dayNumber = 19782 := by decide
example : ofDayNumber (-1) = ⟨1969, 12, 31⟩ := by decide
example : (Date.mk 1900 2 29).isValid = false := by decide

end Date

end DocumentQuery.Calendar
