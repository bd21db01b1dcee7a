import DocumentQuery.CharSet.Folding
import DocumentQuery.CharSet.Property

/-! Sets of characters that patterns have short names for. -/

set_option autoImplicit false

namespace DocumentQuery.Pattern

def ascii? : String → Option CharSet
  | "alnum" => some (.spans "30-39 41-5A 61-7A")
  | "alpha" => some (.spans "41-5A 61-7A")
  | "ascii" => some (.spans "0-7F")
  | "blank" => some (.spans "9 20")
  | "cntrl" => some (.spans "0-1F 7F")
  | "digit" => some (.spans "30-39")
  | "graph" => some (.spans "21-7E")
  | "lower" => some (.spans "61-7A")
  | "print" => some (.spans "20-7E")
  | "punct" => some (.spans "21-2F 3A-40 5B-60 7B-7E")
  | "space" => some (.spans "9-D 20")
  | "upper" => some (.spans "41-5A")
  | "word" => some (.spans "30-39 41-5A 5F 61-7A")
  | "xdigit" => some (.spans "30-39 41-46 61-66")
  | _ => none

def escaped? (unicode : Bool) : Char → Option CharSet
  | 'd' => if unicode then some CharSet.Category.decimalNumber else ascii? "digit"
  | 's' => if unicode then some CharSet.Trait.whiteSpace else ascii? "space"
  | 'w' => if unicode then some CharSet.Trait.word else ascii? "word"
  | _ => none

end DocumentQuery.Pattern
