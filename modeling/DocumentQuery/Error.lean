import DocumentQuery.Value.Equality
import DocumentQuery.Value.Printer

/-! What can go wrong, by cause. Each cause has one wording and belongs to one
kind; the kinds say whether the client or the store is at fault.
-/

set_option autoImplicit false

namespace DocumentQuery

/-- What a filter value was expected to be. -/
inductive Expected where
  | number
  | boolean
  | date
  | pattern
  deriving DecidableEq, Repr

def Expected.text : Expected → String
  | .number => "number"
  | .boolean => "boolean"
  | .date => "date"
  | .pattern => "pattern"

inductive ErrorKind where
  | invalidArgument
  | missingParameter
  | resourceNotFound
  | collectionNotFound
  | documentAlreadyExists
  | invalidSchema
  | configuration
  | serialization
  | backend
  deriving DecidableEq, Repr

def ErrorKind.isClientError : ErrorKind → Bool
  | .invalidArgument | .missingParameter | .resourceNotFound | .collectionNotFound => true
  | _ => false

inductive AccessError where
  /-- A text that is not an identifier. -/
  | invalidReference (text : String)
  /-- A filter value that does not fit the type of its field. -/
  | invalidValue (text : String) (expected : Expected)
  /-- A lower bound of a sync request that is not a point in time. -/
  | invalidBound (text : String)
  /-- A pattern inside an expression that is not well formed. -/
  | invalidPattern (text : String)
  /-- A pattern inside an expression that is not a text. -/
  | patternNotText (field : String)
  /-- A pattern to be written as an operator document that is not a text. -/
  | patternNotWritable (field : String) (value : Value)
  /-- A document to be inserted whose identifier is of another type. -/
  | idNotReference (value : Value)
  /-- A document to be stored without an identifier. -/
  | documentWithoutId (collection : String)
  | missingParameter (name : String)
  | resourceNotFound (id collection : String)
  | collectionNotFound (collection : String)
  | documentAlreadyExists (id : ObjectId) (collection : String)
  | duplicateField (field schema : String)
  | registeredTwice (collection : String)
  | unknownReference (schema target : String)
  /-- Settings that cannot be read at all. -/
  | malformedSettings
  | limitNotPositive
  | noSupportedLocale
  | journalNotRegistered (collection : String)
  /-- A serialized value that is not a document. -/
  | notADocument (value : Value)
  /-- An unsigned number beyond the signed range. -/
  | unsignedTooLarge (value : Nat)
  /-- A failure of the store itself. -/
  | backend (detail : String)
  deriving DecidableEq

namespace AccessError

def kind : AccessError → ErrorKind
  | .invalidReference _ | .invalidValue _ _ | .invalidBound _ | .invalidPattern _
  | .patternNotText _ | .patternNotWritable _ _ | .idNotReference _ | .documentWithoutId _ =>
    .invalidArgument
  | .missingParameter _ => .missingParameter
  | .resourceNotFound _ _ => .resourceNotFound
  | .collectionNotFound _ => .collectionNotFound
  | .documentAlreadyExists _ _ => .documentAlreadyExists
  | .duplicateField _ _ | .registeredTwice _ | .unknownReference _ _ => .invalidSchema
  | .malformedSettings | .limitNotPositive | .noSupportedLocale | .journalNotRegistered _ =>
    .configuration
  | .notADocument _ | .unsignedTooLarge _ => .serialization
  | .backend _ => .backend

def isClientError (error : AccessError) : Bool :=
  error.kind.isClientError

def quoted (text : String) : String :=
  "\"" ++ text ++ "\""

def message : AccessError → String
  | .invalidReference text =>
    "Invalid argument: the value " ++ quoted text ++
      " is not a valid ObjectId. Use a valid ObjectId to filter for this property"
  | .invalidValue text expected =>
    "Invalid argument: the value " ++ quoted text ++ " is not a valid " ++ expected.text
  | .invalidBound text =>
    "Invalid argument: updatesSince " ++ quoted text ++ " is not a valid timestamp"
  | .invalidPattern text => "Invalid argument: invalid pattern " ++ quoted text
  | .patternNotText field =>
    "Invalid argument: regular expression on " ++ field ++ " must be a string"
  | .patternNotWritable field value =>
    "Invalid argument: pattern for " ++ field ++ " must be a string, got " ++ value.text
  | .idNotReference value => "Invalid argument: _id must be an ObjectId, got " ++ value.text
  | .documentWithoutId collection =>
    "Invalid argument: document in " ++ collection ++ " has no ObjectId _id"
  | .missingParameter name => "Missing parameter: " ++ name
  | .resourceNotFound id collection =>
    "Resource " ++ id ++ " not found in collection " ++ collection
  | .collectionNotFound collection => "Collection not found: " ++ collection
  | .documentAlreadyExists id collection =>
    "Document " ++ id.text ++ " already exists in collection " ++ collection
  | .duplicateField field schema =>
    "Invalid schema: duplicate field " ++ field ++ " in schema " ++ schema
  | .registeredTwice collection =>
    "Invalid schema: collection " ++ collection ++ " is registered twice"
  | .unknownReference schema target =>
    "Invalid schema: schema " ++ schema ++ " references unknown collection " ++ target
  | .malformedSettings => "Configuration error"
  | .limitNotPositive =>
    "Configuration error: default_limit and max_limit must be positive"
  | .noSupportedLocale =>
    "Configuration error: at least one supported locale is required"
  | .journalNotRegistered collection =>
    "Configuration error: journal collection " ++ collection ++ " is not registered"
  | .notADocument value => "Serialization error: expected a document, got " ++ value.text
  | .unsignedTooLarge value =>
    "Serialization error: BSON error. Kind: Unsigned integer " ++ Text.natText value ++
      " cannot fit into BSON."
  | .backend detail => "Backend error: " ++ detail

end AccessError

end DocumentQuery
