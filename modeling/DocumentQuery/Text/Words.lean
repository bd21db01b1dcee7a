import DocumentQuery.Text.Blank

/-! Dividing texts: dotted paths into their segments, and lists of names into
the names between commas and blanks.
-/

set_option autoImplicit false

namespace DocumentQuery.Text

/-- The pieces of a text between the occurrences of a character; at least one. -/
def splitAt (c : Char) (text : String) : List String :=
  (text.toList.splitOn c).map String.ofList

/-- The nonempty names between the commas and blanks of a text. -/
def words (text : String) : List String :=
  ((text.toList.splitOnP fun c => c == ',' || isBlank c).filter (! ·.isEmpty)).map String.ofList

def divideAt? (c : Char) : List Char → Option (List Char × List Char)
  | [] => none
  | d :: rest =>
    if d = c then some ([], rest)
    else (divideAt? c rest).map fun (before, after) => (d :: before, after)

end DocumentQuery.Text
