import DocumentQuery.Value

/-! Types that serialized data lacks are written as documents with one marked key, which
names the type. The value below the key has to be written as that type asks; else the
document is what it is.
-/

set_option autoImplicit false

namespace DocumentQuery.Value

open Text

def readInt32? (text : String) : Option Int32 := do
  let value ← Number.readInt64? text.toList
  if value.toInt32.toInt64 = value then some value.toInt32 else none

/-- A second with a count, either both in 32 bits, whose sign is disregarded, or both in 64. -/
def clock? (fields : Document) : Option Sealed :=
  match fields.get? "t", fields.get? "i" with
  | some (.int32 second), some (.int32 count) => some (.clock second.toUInt32 count.toUInt32)
  | some (.int64 second), some (.int64 count) =>
    let fits (n : Int64) : Bool := 0 ≤ n.toInt && n.toInt < UInt32.size
    if fits second && fits count then
      some (.clock (UInt32.ofNat second.toInt.toNat) (UInt32.ofNat count.toInt.toNat))
    else none
  | _, _ => none

/-- A pattern with its options; neither may hold the character zero. -/
def pattern? (fields : Document) : Option Sealed :=
  match fields.get? "pattern", fields.get? "options" with
  | some (.string source), some (.string options) =>
    if source.toList.contains '\x00' || options.toList.contains '\x00' then none
    else some (.pattern source (options.toList.mergeSort (· ≤ ·)))
  | _, _ => none

def byte? (text : String) : Option UInt8 :=
  match leadingDigits 16 text.toList with
  | ([high, low], []) => some (UInt8.ofNat (high * 16 + low))
  | _ => none

/-- Bytes with their kind: a text and two hexadecimal digits, or generic bytes and a number. -/
def binary? (fields : Document) : Option Sealed :=
  match fields.get? "base64", fields.get? "subType" with
  | some (.string text), some (.string kind) => do
    return .binary (← byte? kind) (← Base64.decode? text.toList)
  | some (.string _), _ => none
  | _, some (.int32 kind) =>
    match fields.get? "bytes" with
    | some (.sealed (.binary inner bytes)) =>
      if inner = Sealed.genericKind ∧ 0 ≤ kind.toInt ∧ kind.toInt < 256 then
        some (.binary (UInt8.ofNat kind.toInt.toNat) bytes)
      else none
    | _ => none
  | _, _ => none

/-- The decimal that sixteen generic bytes hold, the lowest first. -/
def decimalOfBytes? (kind : UInt8) (bytes : List UInt8) : Option Sealed :=
  if kind = Sealed.genericKind ∧ bytes.length = 16 then
    some (.decimal (.ofBits (ofDigits 256 (bytes.reverse.map (·.toNat)))))
  else none

/-- The digits of a universally unique identifier, which hyphens may divide into groups of eight,
four, four, four and twelve. -/
def uuidDigits? (text : List Char) : Option (List Char) :=
  let grouped? (text : List Char) : Option (List Char) :=
    let groups := text.splitOn '-'
    if groups.map List.length = [8, 4, 4, 4, 12] then some groups.flatten else none
  let scheme := "urn:uuid:".toList
  if text.length = 32 then some text
  else if text.length = 36 then grouped? text
  -- Groups may stand between braces or after a scheme.
  else if text.length = 38 ∧ text.head? = some '\x7b' ∧ text.getLast? = some '\x7d' then
    grouped? (text.drop 1).dropLast
  else if text.length = 45 ∧ text.take 9 = scheme then grouped? (text.drop 9)
  else none

def uuid? (text : String) : Option Sealed := do
  match leadingDigits 16 (← uuidDigits? text.toList) with
  | (digits, []) =>
    return .binary Sealed.uuidKind ((fixedDigits 256 16 (ofDigits 16 digits)).map UInt8.ofNat)
  | (_, _ :: _) => none

def pointer? (fields : Document) : Option Sealed :=
  match fields.get? "$ref", fields.get? "$id" with
  | some (.string collection), some (.objectId id) => some (.pointer collection id)
  | _, _ => none

def ofMark? (mark : String) (value : Value) : Option Value :=
  match mark, value with
  | "$oid", .string text => (ObjectId.read? text).map .objectId
  | "$numberInt", .string text => (readInt32? text).map .int32
  | "$numberLong", .string text => (Number.readInt64? text.toList).map .int64
  | "$numberDouble", .string text => (Number.readBinary64? text.toList).map .double
  | "$numberDecimal", .string text => (Decimal.read? text).map (.sealed ∘ .decimal)
  | "$numberDecimalBytes", .sealed (.binary kind bytes) => (decimalOfBytes? kind bytes).map .sealed
  | "$date", .int64 millis => some (.date ⟨millis⟩)
  | "$date", .string text => (Timestamp.readSerialized? text.toList).map .date
  | "$minKey", .int32 value => if value = 1 then some .minKey else none
  | "$minKey", .int64 value => if value = 1 then some .minKey else none
  | "$maxKey", .int32 value => if value = 1 then some .maxKey else none
  | "$maxKey", .int64 value => if value = 1 then some .maxKey else none
  | "$undefined", .bool true => some .undefined
  | "$symbol", .string name => some (.sealed (.symbol name))
  | "$code", .string source => some (.sealed (.code source))
  | "$timestamp", .document fields => (clock? fields).map .sealed
  | "$regularExpression", .document fields => (pattern? fields).map .sealed
  | "$binary", .document fields => (binary? fields).map .sealed
  | "$uuid", .string text => (uuid? text).map .sealed
  | "$dbPointer", .document fields => (pointer? fields).map .sealed
  | _, _ => none

/-- The value of a document: what its mark says, or else the document. -/
def ofMarked (document : Document) : Value :=
  match document with
  | [(mark, value)] => (ofMark? mark value).getD (.document document)
  -- Code may have a scope beside it, which nothing shows.
  | [("$code", .string source), ("$scope", .document _)]
  | [("$scope", .document _), ("$code", .string source)] => .sealed (.code source)
  | _ => .document document

end DocumentQuery.Value
