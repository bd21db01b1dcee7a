import DocumentQuery.Text.Numeral

/-! JSON texts, as far as settings need them: whole numbers keep their value, other
numbers only their presence, and a text that has no Unicode form, because half of a
surrogate pair stands alone in it, is kept as such.
-/

set_option autoImplicit false

namespace DocumentQuery

open Text

inductive Json where
  | null
  | bool (value : Bool)
  | integer (value : Int)
  /-- A number with a fraction or an exponent, or a negative zero. -/
  | number
  | string (text : Option String)
  | array (items : List Json)
  | object (members : List (Option String × Json))

namespace Json

def skip (text : List Char) : List Char :=
  text.dropWhile fun c => c == ' ' || c == '\n' || c == '\t' || c == '\r'

def unit? (text : List Char) : Option (Nat × List Char) :=
  match leadingDigits 16 (text.take 4) with
  | ([a, b, c, d], _) => some (ofDigits 16 [a, b, c, d], text.drop 4)
  | _ => none

def shortEscape? : Char → Option Char
  | '"' => some '"'
  | '\\' => some '\\'
  | '/' => some '/'
  | 'b' => some '\x08'
  | 'f' => some '\x0c'
  | 'n' => some '\n'
  | 'r' => some '\r'
  | 't' => some '\t'
  | _ => none

/-- Reads the inside of a string and its closing quote, as code units: characters stand for
themselves, and escapes may give halves of surrogate pairs. -/
def units? : (fuel : Nat) → List Char → Option (List Nat × List Char)
  | 0, _ => none
  | fuel + 1, text =>
    match text with
    | [] => none
    | '"' :: rest => some ([], rest)
    | '\\' :: 'u' :: rest => do
      let (unit, rest) ← unit? rest
      let (units, rest) ← units? fuel rest
      return (unit :: units, rest)
    | '\\' :: c :: rest => do
      let c ← shortEscape? c
      let (units, rest) ← units? fuel rest
      return (c.toNat :: units, rest)
    | c :: rest =>
      if c = '\\' ∨ c.toNat < 32 then none
      else (units? fuel rest).map fun (units, rest) => (c.toNat :: units, rest)

/-- The characters of code units, if each half of a surrogate pair has the other. -/
def decode? : List Nat → Option (List Char)
  | [] => some []
  | high :: rest =>
    if 0xDC00 ≤ high ∧ high ≤ 0xDFFF then none
    else if 0xD800 ≤ high ∧ high ≤ 0xDBFF then
      match rest with
      | low :: rest =>
        if 0xDC00 ≤ low ∧ low ≤ 0xDFFF then
          (decode? rest).map (Char.ofNat (0x10000 + (high - 0xD800) * 1024 + (low - 0xDC00)) :: ·)
        else none
      | [] => none
    else (decode? rest).map (Char.ofNat high :: ·)

def string? (text : List Char) : Option (Option String × List Char) :=
  (units? (text.length + 1) text).map fun (units, rest) =>
    ((decode? units).map String.ofList, rest)

def fraction? : List Char → Option (Bool × List Char)
  | '.' :: rest =>
    match leadingDigits 10 rest with
    | ([], _) => none
    | (_, rest) => some (true, rest)
  | text => some (false, text)

def exponent? : List Char → Option (Bool × List Char)
  | c :: rest =>
    if c = 'e' ∨ c = 'E' then
      let rest := match rest with
        | '+' :: rest | '-' :: rest => rest
        | rest => rest
      match leadingDigits 10 rest with
      | ([], _) => none
      | (_, rest) => some (true, rest)
    else some (false, c :: rest)
  | [] => some (false, [])

/-- Reads a number; only zero itself may start with a zero. -/
def number? (text : List Char) : Option (Json × List Char) := do
  let (negative, text) := match text with
    | '-' :: rest => (true, rest)
    | text => (false, text)
  let (digits, rest) ← match text with
    | '0' :: rest => some ([0], rest)
    | text => match leadingDigits 10 text with
      | ([], _) => none
      | (digits, rest) => some (digits, rest)
  let (fractional, rest) ← fraction? rest
  let (scaled, rest) ← exponent? rest
  let size : Int := ofDigits 10 digits
  -- A negative zero is no whole number, since it would lose its sign.
  if fractional || scaled || (negative && size == 0) then return (.number, rest)
  else return (.integer (if negative then -size else size), rest)

mutual

def value? : (fuel : Nat) → List Char → Option (Json × List Char)
  | 0, _ => none
  | fuel + 1, text =>
    match skip text with
    | 'n' :: 'u' :: 'l' :: 'l' :: rest => some (.null, rest)
    | 't' :: 'r' :: 'u' :: 'e' :: rest => some (.bool true, rest)
    | 'f' :: 'a' :: 'l' :: 's' :: 'e' :: rest => some (.bool false, rest)
    | '"' :: rest => (string? rest).map fun (text, rest) => (.string text, rest)
    | '[' :: rest =>
      match skip rest with
      | ']' :: rest => some (.array [], rest)
      | rest => (items? fuel rest).map fun (items, rest) => (.array items, rest)
    | '\x7b' :: rest =>
      match skip rest with
      | '\x7d' :: rest => some (.object [], rest)
      | rest => (members? fuel rest).map fun (members, rest) => (.object members, rest)
    | text => number? text

def items? : (fuel : Nat) → List Char → Option (List Json × List Char)
  | 0, _ => none
  | fuel + 1, text => do
    let (item, rest) ← value? fuel text
    match skip rest with
    | ',' :: rest => (items? fuel rest).map fun (items, rest) => (item :: items, rest)
    | ']' :: rest => some ([item], rest)
    | _ => none

def members? : (fuel : Nat) → List Char → Option (List (Option String × Json) × List Char)
  | 0, _ => none
  | fuel + 1, text =>
    match skip text with
    | '"' :: rest => do
      let (key, rest) ← string? rest
      match skip rest with
      | ':' :: rest => do
        let (value, rest) ← value? fuel rest
        match skip rest with
        | ',' :: rest =>
          (members? fuel rest).map fun (members, rest) => ((key, value) :: members, rest)
        | '\x7d' :: rest => some ([(key, value)], rest)
        | _ => none
      | _ => none
    | _ => none

end

def read? (text : String) : Option Json :=
  match value? (2 * text.length + 2) text.toList with
  | some (value, rest) => if (skip rest).isEmpty then some value else none
  | none => none

end Json

end DocumentQuery
