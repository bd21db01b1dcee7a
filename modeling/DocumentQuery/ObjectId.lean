import DocumentQuery.Text.Numeral

/-! Identifiers of documents: numbers of twelve bytes, written as exactly
twenty-four hexadecimal digits. Their order is that of the bytes, hence of the
numbers.
-/

set_option autoImplicit false

namespace DocumentQuery

open Text

/-- The number of identifiers: twelve bytes make one. -/
def ObjectId.count : Nat := 1 <<< 96

instance : @NeZero Nat Zero.ofOfNat0 ObjectId.count := ⟨by decide⟩

structure ObjectId where
  code : Fin ObjectId.count
  deriving DecidableEq, Repr

namespace ObjectId

instance : Ord ObjectId where
  compare a b := compare a.code.val b.code.val

instance : Std.TransOrd ObjectId where
  eq_swap {a b} := Std.OrientedOrd.eq_swap (a := a.code.val) (b := b.code.val)
  isLE_trans {a b c} h h' :=
    Std.TransOrd.isLE_trans (a := a.code.val) (b := b.code.val) (c := c.code.val) h h'

instance : Std.LawfulEqOrd ObjectId where
  eq_of_compare {a b} h := by
    have same : a.code.val = b.code.val := Std.LawfulEqOrd.eq_of_compare h
    cases a; cases b
    exact congrArg ObjectId.mk (Fin.ext same)

/-- Reads twenty-four hexadecimal digits of either case and nothing else. -/
def read? (text : String) : Option ObjectId :=
  match leadingDigits 16 text.toList with
  | (digits, []) =>
    if digits.length = 24 then some ⟨Fin.ofNat count (ofDigits 16 digits)⟩ else none
  | (_, _ :: _) => none

def text (id : ObjectId) : String :=
  String.ofList ((fixedDigits 16 24 id.code.val).map digitChar)

end ObjectId

end DocumentQuery
