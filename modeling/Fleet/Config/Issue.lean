/-
  Fleet/Config/Issue.lean
  =======================
  **What can be wrong with a cluster file.**

  A file that cannot be read or is no JSON text has one fault.  The records of a JSON document
  are all checked, and each thing that is wrong is an issue of its own: it tells which record
  it is about, by index and name, and which key.
-/
import Fleet.Config.Field
import Fleet.Json.Parser

namespace Fleet.Config

/-- What is wrong with a record, or with the document as a whole. -/
inductive Issue.Cause where
  /-- The document is an object without a list of clusters. -/
  | noClusters
  /-- The document is neither an object nor a list. -/
  | notDocument
  | empty
  | notObject
  /-- The value is of another kind than the field. -/
  | wrongKind (expected : FieldKind) (found : Json)
  | missing
  | blank
  | unknownKind (raw : String)
  | badUrl (raw : String) (why : Endpoint.Fault)
  /-- The key is missing and the endpoint of the API gives nothing to derive it from. -/
  | underivable (api : String)
  /-- An earlier record, the one at this index, has the same endpoint. -/
  | duplicate (url : String) (first : Nat)

def Issue.Cause.message : Issue.Cause → String
  | noClusters => "expected a 'clusters' array"
  | notDocument => "expected an object with a 'clusters' array"
  | empty => "no clusters defined"
  | notObject => "expected an object"
  | wrongKind k v => "expected a " ++ k.name ++ ", found " ++ v.kindName
  | missing => "is required"
  | blank => "must not be empty"
  | unknownKind raw => "'" ++ raw ++ "' is not one of OSD, OCP, OSO"
  | badUrl raw why => why.message raw
  | underivable api => "cannot be derived from api-url '" ++ api ++ "'"
  | duplicate url first => "'" ++ url ++ "' is already used by clusters[" ++ toString first ++ "]"

/-- Something that is wrong with a document. -/
structure Issue where
  /-- The index of the record; none when the document is meant. -/
  record : Option Nat
  /-- The name of the record, when it has one that is not blank. -/
  name : Option String
  /-- The key, when the issue is about one. -/
  field : Option String
  cause : Issue.Cause

namespace Issue

/-- An issue with the document as a whole. -/
def ofDocument (cause : Cause) : Issue := ⟨none, none, none, cause⟩

def message (i : Issue) : String := i.cause.message

/-- The issue with its place in front of it. -/
def render (i : Issue) : String :=
  (match i.record with
    | none => ""
    | some n =>
      "clusters[" ++ toString n ++ "]" ++
        (match i.name with | none => "" | some s => " (" ++ s ++ ")") ++ ": ") ++
  (match i.field with | none => "" | some f => f ++ ": ") ++ i.message

end Issue

inductive ReadFault where
  | absent | directory | notText
deriving DecidableEq, Repr

def ReadFault.message : ReadFault → String
  | .absent => "No such file or directory (os error 2)"
  | .directory => "Is a directory (os error 21)"
  | .notText => "stream did not contain valid UTF-8"

/-- Why a value is not a cluster definition. -/
inductive DecodeFault where
  | missingField (name : String)
  | wrongType (found expected : String)
  | wrongLength (found : Nat) (expected : String)
  | unknownVariant (name : String)
  /-- An object that does not name exactly one variant. -/
  | notSingle
deriving DecidableEq, Repr

def DecodeFault.message : DecodeFault → String
  | .missingField f => "missing field `" ++ f ++ "`"
  | .wrongType found expected => "invalid type: " ++ found ++ ", expected " ++ expected
  | .wrongLength n expected => "invalid length " ++ toString n ++ ", expected " ++ expected
  | .unknownVariant v => "unknown variant `" ++ v ++ "`, expected one of `OSD`, `OCP`, `OSO`"
  | .notSingle => "invalid value: map, expected map with a single key"

inductive Fault where
  | unreadable (path : String) (why : ReadFault)
  | malformed (why : Json.Fault)
  | undecodable (why : DecodeFault)
  | invalid (issues : List Issue)

namespace Fault

def issues : Fault → List Issue
  | invalid is => is
  | _ => []

/-- The fault in words; issues are joined by semicolons. -/
def message : Fault → String
  | unreadable path why => "failed to read " ++ path ++ ": " ++ why.message
  | malformed why => "malformed cluster configuration: " ++ why.message
  | undecodable why => "malformed cluster configuration: " ++ why.message
  | invalid is => "invalid cluster configuration: " ++ "; ".intercalate (is.map Issue.render)

/-- What lies beneath the fault, in words. -/
def cause? : Fault → Option String
  | unreadable _ why => some why.message
  | malformed why => some why.message
  | undecodable why => some why.message
  | invalid _ => none

end Fault

end Fleet.Config
