import DocumentQuery.Number.Literal
import DocumentQuery.Settings
import DocumentQuery.Settings.Json

/-! Settings written in JSON: an object whose known members override the defaults,
or an array of the values in the order in which settings are declared. Members that
are not known do not count, but a known one may occur only once.
-/

set_option autoImplicit false

namespace DocumentQuery

namespace Json

/-- The members with known names; each may occur once. -/
def knownMembers? (names : List String) :
    List (Option String × Json) → Option (List (String × Json))
  | [] => some []
  | (key, value) :: rest => do
    let key ← key
    let members ← knownMembers? names rest
    if key ∉ names then return members
    else if members.any (·.1 == key) then none
    else return (key, value) :: members

/-- The values given for named fields, by name or by position. -/
def fields? (names : List String) : Json → Option (List (String × Json))
  | .object members => knownMembers? names members
  | .array items => if items.length ≤ names.length then some (names.zip items) else none
  | _ => none

def text? : Json → Option String
  | .string text => text
  | _ => none

def texts? : Json → Option (List String)
  | .array items => items.mapM text?
  | _ => none

def int64? : Json → Option Int64
  | .integer value => Number.fitInt64? value
  | _ => none

def fieldOr {α : Type} (fields : List (String × Json)) (name : String) (read? : Json → Option α)
    (default : α) : Option α :=
  match fields.lookup name with
  | some value => read? value
  | none => some default

end Json

def Locales.ofJson? (json : Json) : Option Locales := do
  let fields ← json.fields? ["supported_locales", "fallback_locale"]
  let defaults : Locales := {}
  return {
    supported := ← Json.fieldOr fields "supported_locales" Json.texts? defaults.supported
    fallback := ← Json.fieldOr fields "fallback_locale" Json.text? defaults.fallback }

namespace Settings

def names : List String :=
  ["default_limit", "max_limit", "primary_key", "updated_field", "journal_collection", "i18n"]

def ofJson? (json : Json) : Option Settings := do
  let fields ← json.fields? names
  let defaults : Settings := {}
  return {
    defaultLimit := ← Json.fieldOr fields "default_limit" Json.int64? defaults.defaultLimit
    maxLimit := ← Json.fieldOr fields "max_limit" Json.int64? defaults.maxLimit
    primaryKey := ← Json.fieldOr fields "primary_key" Json.text? defaults.primaryKey
    updatedField := ← Json.fieldOr fields "updated_field" Json.text? defaults.updatedField
    journalCollection :=
      ← Json.fieldOr fields "journal_collection" Json.text? defaults.journalCollection
    locales := ← Json.fieldOr fields "i18n" Locales.ofJson? defaults.locales }

/-- Reads settings from a text, and refuses those that cannot be used. -/
def read (text : String) : Except AccessError Settings :=
  match (Json.read? text).bind ofJson? with
  | some settings => settings.validate
  | none => .error .malformedSettings

end Settings

end DocumentQuery
