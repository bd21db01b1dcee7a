import DocumentQuery.CharSet.Basic

/-! Characters as bytes. An interval of code points divides into parts whose UTF-8
forms are all combinations of bytes from one interval for each position.
-/

set_option autoImplicit false

namespace DocumentQuery.Pattern

structure ByteRange where
  first : Nat
  last : Nat
  deriving DecidableEq, Repr

def utf8Bytes (code : Nat) : List Nat :=
  if code < 0x80 then [code]
  else if code < 0x800 then [0xC0 + code / 64, 0x80 + code % 64]
  else if code < 0x10000 then [0xE0 + code / 4096, 0x80 + code / 64 % 64, 0x80 + code % 64]
  else [0xF0 + code / 262144, 0x80 + code / 4096 % 64, 0x80 + code / 64 % 64, 0x80 + code % 64]

/-- Where an interval has to be divided, as the last code point of the lower part. Its ends must
have forms of one length, and below the first position at which they differ every byte must be
possible. -/
def divideAt? (first last : Nat) : Option Nat :=
  let lengths := [0x7F, 0x7FF, 0xFFFF].find? fun longest => first ≤ longest && longest < last
  let tails := [64, 4096, 262144].findSome? fun unit =>
    if first / unit = last / unit then none
    else if first % unit ≠ 0 then some (first / unit * unit + unit - 1)
    else if last % unit ≠ unit - 1 then some (last / unit * unit - 1)
    else none
  if lengths.isSome then lengths else if last < 0x80 then none else tails

def divided : (fuel : Nat) → (first last : Nat) → List (List ByteRange)
  | 0, _, _ => []
  | fuel + 1, first, last =>
    if last < first then []
    -- An interval divides at three lengths and at most twice for each of three positions.
    else match divideAt? first last with
      | some middle => divided fuel first middle ++ divided fuel (middle + 1) last
      | none => [List.zipWith ByteRange.mk (utf8Bytes first) (utf8Bytes last)]

def byteRanges (span : Interval) : List (List ByteRange) :=
  -- Surrogates are no characters.
  divided 16 span.first (min span.last 0xD7FF) ++ divided 16 (max span.first 0xE000) span.last

example : byteRanges ⟨0x61, 0x7A⟩ = [[⟨0x61, 0x7A⟩]] := by decide

example : byteRanges ⟨0x0, 0xFFFF⟩ =
    [[⟨0x0, 0x7F⟩], [⟨0xC2, 0xDF⟩, ⟨0x80, 0xBF⟩],
      [⟨0xE0, 0xE0⟩, ⟨0xA0, 0xBF⟩, ⟨0x80, 0xBF⟩], [⟨0xE1, 0xEC⟩, ⟨0x80, 0xBF⟩, ⟨0x80, 0xBF⟩],
      [⟨0xED, 0xED⟩, ⟨0x80, 0x9F⟩, ⟨0x80, 0xBF⟩],
      [⟨0xEE, 0xEF⟩, ⟨0x80, 0xBF⟩, ⟨0x80, 0xBF⟩]] := by decide

end DocumentQuery.Pattern
