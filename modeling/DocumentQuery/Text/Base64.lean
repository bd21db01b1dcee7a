import DocumentQuery.Text.Numeral

/-! Base64: three bytes are written as four digits of base sixty-four. A shorter last
group is padded with `=` to four characters, and the bits that it does not need are
zero, so that every list of bytes has one text.
-/

set_option autoImplicit false

namespace DocumentQuery.Text.Base64

def digit (value : Nat) : Char :=
  if value < 26 then Char.ofNat (65 + value)
  else if value < 52 then Char.ofNat (71 + value)
  else if value < 62 then Char.ofNat (value - 4)
  else if value = 62 then '+'
  else '/'

def value? (c : Char) : Option Nat :=
  if 'A' ≤ c ∧ c ≤ 'Z' then some (c.toNat - 65)
  else if 'a' ≤ c ∧ c ≤ 'z' then some (c.toNat - 71)
  else if '0' ≤ c ∧ c ≤ '9' then some (c.toNat + 4)
  else if c = '+' then some 62
  else if c = '/' then some 63
  else none

def encodeGroup (bytes : List UInt8) : List Char :=
  let missing := 3 - bytes.length
  let code := ofDigits 256 (bytes.map (·.toNat)) <<< (2 * missing)
  (fixedDigits 64 (bytes.length + 1) code).map digit ++ List.replicate missing '='

def encode : List UInt8 → List Char
  | [] => []
  | a :: b :: c :: rest => encodeGroup [a, b, c] ++ encode rest
  | bytes => encodeGroup bytes

def decodeGroup? (text : List Char) : Option (List UInt8) := do
  let code := ofDigits 64 (← text.mapM value?)
  let spare := 1 <<< (2 * (4 - text.length))
  if code % spare = 0 then
    return (fixedDigits 256 (text.length - 1) (code / spare)).map UInt8.ofNat
  else none

def decode? : List Char → Option (List UInt8)
  | [] => some []
  | [a, b, '=', '='] => decodeGroup? [a, b]
  | [a, b, c, '='] => decodeGroup? [a, b, c]
  | a :: b :: c :: d :: rest => do
    let bytes ← decodeGroup? [a, b, c, d]
    return bytes ++ (← decode? rest)
  | _ => none

example : encode [102, 111, 111, 98] = "Zm9vYg==".toList := by decide
example : decode? "Zm9vYg==".toList = some [102, 111, 111, 98] := by decide
example : decode? "Zm9vYh==".toList = none := by decide

end DocumentQuery.Text.Base64
