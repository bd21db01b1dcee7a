/-! Numerals: digits of a base, the numbers they write, and the texts of
numbers. Only ASCII digits count.
-/

set_option autoImplicit false

namespace DocumentQuery.Text

/-- The value of a digit; letters of either case stand for ten and more. -/
def digitValue? (base : Nat) (c : Char) : Option Nat :=
  let value? :=
    if '0' ≤ c ∧ c ≤ '9' then some (c.toNat - 48)
    else if 'a' ≤ c ∧ c ≤ 'z' then some (c.toNat - 87)
    else if 'A' ≤ c ∧ c ≤ 'Z' then some (c.toNat - 55)
    else none
  value?.filter (· < base)

def digitChar (value : Nat) : Char :=
  if value < 10 then Char.ofNat (48 + value) else Char.ofNat (87 + value)

/-- The number that a list of digit values writes, most significant first. -/
def ofDigits (base : Nat) (digits : List Nat) : Nat :=
  digits.foldl (fun value digit => value * base + digit) 0

def leadingDigits (base : Nat) : List Char → List Nat × List Char
  | [] => ([], [])
  | c :: rest =>
    match digitValue? base c with
    | some value =>
      let (values, after) := leadingDigits base rest
      (value :: values, after)
    | none => ([], c :: rest)

/-- Exactly `count` digits of a number, the most significant first; higher ones are dropped. -/
def fixedDigits (base : Nat) : (count : Nat) → Nat → List Nat
  | 0, _ => []
  | count + 1, n => fixedDigits base count (n / base) ++ [n % base]

def decimalDigits (n : Nat) : List Nat :=
  if n < 10 then [n] else decimalDigits (n / 10) ++ [n % 10]
termination_by n

def natText (n : Nat) : String :=
  String.ofList ((decimalDigits n).map digitChar)

def intText (n : Int) : String :=
  if n < 0 then "-" ++ natText n.natAbs else natText n.natAbs

def paddedText (width n : Nat) : String :=
  let digits := decimalDigits n
  String.ofList ((List.replicate (width - digits.length) 0 ++ digits).map digitChar)

theorem ofDigits_append_singleton (base : Nat) (digits : List Nat) (digit : Nat) :
    ofDigits base (digits ++ [digit]) = ofDigits base digits * base + digit := by
  simp [ofDigits]

theorem ofDigits_decimalDigits (n : Nat) : ofDigits 10 (decimalDigits n) = n := by
  induction n using decimalDigits.induct with
  | case1 n small => rw [decimalDigits, if_pos small]; simp [ofDigits]
  | case2 n large ih =>
    rw [decimalDigits, if_neg large, ofDigits_append_singleton, ih]
    omega

theorem ofDigits_fixedDigits (base count n : Nat) :
    ofDigits base (fixedDigits base count n) = n % Nat.pow base count := by
  induction count generalizing n with
  | zero => simp [fixedDigits, ofDigits, Nat.mod_one]
  | succ count ih =>
    have larger : Nat.pow base (count + 1) = base * Nat.pow base count := Nat.mul_comm _ _
    rw [fixedDigits, ofDigits_append_singleton, ih, larger]
    rw [Nat.mod_mul, Nat.mul_comm, Nat.add_comm]

end DocumentQuery.Text
