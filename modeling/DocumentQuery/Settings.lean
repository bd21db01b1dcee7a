import DocumentQuery.Error

/-! Settings of the resource layer: page sizes, the names of particular fields and
collections, and the locales. The locale of a request is the one it asks for when
it is supported, else its two letter language, else the fallback.
-/

set_option autoImplicit false

namespace DocumentQuery

/-- The supported locales, and the one for requests that ask for none of them. -/
structure Locales where
  supported : List String := ["en", "de", "fr", "it"]
  fallback : String := "en"
  deriving DecidableEq, Repr

structure Settings where
  /-- The page size of requests without a usable limit. -/
  defaultLimit : Int64 := 100
  /-- The bound on all page sizes. -/
  maxLimit : Int64 := 1000
  /-- The stored field that clients call `id`. -/
  primaryKey : String := "_id"
  /-- The date that sync requests compare with their bound. -/
  updatedField : String := "updated"
  /-- The collection that deletions are recorded in. -/
  journalCollection : String := "deletejournal"
  locales : Locales := {}
  deriving DecidableEq, Repr

/-- Refuses settings without positive limits or without a supported locale. -/
def Settings.validate (settings : Settings) : Except AccessError Settings :=
  if settings.defaultLimit ≤ 0 ∨ settings.maxLimit ≤ 0 then .error .limitNotPositive
  else if settings.locales.supported.isEmpty then .error .noSupportedLocale
  else .ok settings

/-- The locale for a request, given what it asks for. -/
def Locales.resolve (locales : Locales) : Option String → String
  | none => locales.fallback
  | some wanted =>
    -- A regional locale such as `de-AT` starts with its language.
    let language := String.ofList (wanted.toList.take 2)
    if wanted.length < 2 then locales.fallback
    else if wanted ∈ locales.supported then wanted
    else if language ∈ locales.supported then language
    else locales.fallback

end DocumentQuery
