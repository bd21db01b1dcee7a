import DocumentQuery.Number.Decimal
import DocumentQuery.ObjectId
import DocumentQuery.Text.Base64

/-! Values of the database's own types, which documents carry and filters do not look
into. All that can be seen of one is its display.
-/

set_option autoImplicit false

namespace DocumentQuery

open Text

/-- A value that is stored and displayed, but not compared. -/
inductive Sealed where
  | symbol (name : String)
  /-- A second, and the number of an operation within it. -/
  | clock (second count : UInt32)
  /-- A pattern with its options, which are kept in order. -/
  | pattern (source : String) (options : List Char)
  | decimal (value : Decimal)
  /-- Bytes, and the number that says what they hold. -/
  | binary (kind : UInt8) (bytes : List UInt8)
  | code (source : String)
  | pointer (collection : String) (id : ObjectId)
  deriving DecidableEq, Repr

namespace Sealed

def genericKind : UInt8 := 0

def uuidKind : UInt8 := 4

def byteText (byte : UInt8) : String :=
  String.ofList ((fixedDigits 16 (if byte < 16 then 1 else 2) byte.toNat).map digitChar)

def text : Sealed → String
  | .symbol name => "Symbol(\"" ++ name ++ "\")"
  | .clock second count =>
    "Timestamp(" ++ natText second.toNat ++ ", " ++ natText count.toNat ++ ")"
  | .pattern source options => "/" ++ source ++ "/" ++ String.ofList options
  | .decimal value => value.text
  | .binary kind bytes =>
    "Binary(0x" ++ byteText kind ++ ", " ++ String.ofList (Base64.encode bytes) ++ ")"
  | .code source => source
  | .pointer collection id => "DbPointer(" ++ collection ++ ", " ++ id.text ++ ")"

example : text (.binary genericKind [1, 2, 3]) = "Binary(0x0, AQID)" := by decide +kernel

end Sealed

end DocumentQuery
