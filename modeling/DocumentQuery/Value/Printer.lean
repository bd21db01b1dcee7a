import DocumentQuery.Number.Shortest
import DocumentQuery.Value

/-! The display of values inside messages. Texts stand between quotes, documents
between braces with a blank on either side, and nothing is escaped.
-/

set_option autoImplicit false

namespace DocumentQuery.Value

mutual

def text : Value → String
  | .null => "null"
  | .undefined => "undefined"
  | .minKey => "MinKey"
  | .maxKey => "MaxKey"
  | .bool value => if value then "true" else "false"
  | .int32 value => Text.intText value.toInt
  | .int64 value => Text.intText value.toInt
  | .double value => value.text
  | .string value => "\"" ++ value ++ "\""
  | .date value => "DateTime(\"" ++ value.text ++ "\")"
  | .objectId value => "ObjectId(\"" ++ value.text ++ "\")"
  | .sealed value => value.text
  | .array items => "[" ++ ", ".intercalate (itemTexts items) ++ "]"
  | .document [] => "\x7b\x7d"
  | .document (field :: rest) =>
    "\x7b " ++ ", ".intercalate (fieldTexts (field :: rest)) ++ " \x7d"

def itemTexts : List Value → List String
  | [] => []
  | item :: rest => text item :: itemTexts rest

def fieldTexts : List (String × Value) → List String
  | [] => []
  | (key, value) :: rest => ("\"" ++ key ++ "\": " ++ text value) :: fieldTexts rest

end

example : text (.document [("a", .int32 1), ("b", .array [.string "x", .bool true])]) =
    "\x7b \"a\": 1, \"b\": [\"x\", true] \x7d" := by cbv

end DocumentQuery.Value
