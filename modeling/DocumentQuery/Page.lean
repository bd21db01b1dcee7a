import DocumentQuery.Number.Literal
import DocumentQuery.Parameters
import DocumentQuery.Query
import DocumentQuery.Settings
import DocumentQuery.Text.Blank

/-! Pages. The limit of a page is what the request asks for within the bounds of
the settings; the offset is passed on as it is.
-/

set_option autoImplicit false

namespace DocumentQuery

structure Page where
  skip : Int64
  limit : Int64
  deriving DecidableEq, Repr

namespace Page

/-- Reads the first of the values given for a number. -/
def number? (values : List String) : Option Int64 := do
  Number.readInt64? (Text.trim (← values.head?).toList)

/-- The size of a page that asks for `wanted`, when it is positive, within the settings. -/
def bounded (settings : Settings) (wanted : Option Int64) : Int64 :=
  min ((wanted.filter (0 < ·)).getD settings.defaultLimit) settings.maxLimit

def extract (settings : Settings) (parameters : Parameters) : Page × Parameters :=
  let (limits, parameters) := parameters.take "limit"
  let (skips, parameters) := parameters.take "skip"
  (⟨(number? skips).getD 0, bounded settings (number? limits)⟩, parameters)

def apply (page : Page) (draft : Draft) : Draft :=
  (draft.skipping page.skip).limited page.limit

end Page

end DocumentQuery
