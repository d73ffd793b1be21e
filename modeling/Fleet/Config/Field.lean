/-
  Fleet/Config/Field.lean
  =======================
  **The fields of a cluster record, and their defaults.**

  A record of the cluster file is a JSON object.  The table `Field.all` names the keys it may
  carry, the kind of value each holds, and which of them must be there and not blank.  The
  table `Field.defaults` says what a missing key stands for.
-/
import Fleet.Json.Basic
import Fleet.Endpoint

namespace Fleet.Config

/-- The kinds of values that fields hold. -/
inductive FieldKind where
  | text | flag
deriving DecidableEq, Repr

namespace FieldKind

def name : FieldKind → String
  | text => "string"
  | flag => "boolean"

def admits : FieldKind → Json → Bool
  | text, .str _ => true
  | flag, .bool _ => true
  | _, _ => false

end FieldKind

/-- A key that a record may carry. -/
structure Field where
  name : String
  kind : FieldKind
  required : Bool
deriving DecidableEq, Repr

/-- What a missing key stands for. -/
inductive Default where
  /-- The endpoint beside the one of the API with this first label and this path. -/
  | derived (label path : String)
  | text (s : String)
  | flag (b : Bool)
deriving DecidableEq, Repr

namespace Field

def all : List Field := [
  ⟨"name", .text, true⟩,
  ⟨"api-url", .text, true⟩,
  ⟨"console-url", .text, false⟩,
  ⟨"metrics-url", .text, false⟩,
  ⟨"logging-url", .text, false⟩,
  ⟨"app-dns", .text, true⟩,
  ⟨"service-account-token", .text, true⟩,
  ⟨"service-account-username", .text, true⟩,
  ⟨"service-account-token-encrypted", .flag, false⟩,
  ⟨"token-provider-id", .text, false⟩,
  ⟨"auth-client-id", .text, true⟩,
  ⟨"auth-client-secret", .text, true⟩,
  ⟨"auth-client-default-scope", .text, true⟩,
  ⟨"type", .text, false⟩,
  ⟨"capacity-exhausted", .flag, false⟩]

def urls : List String := ["api-url", "console-url", "metrics-url", "logging-url"]

def defaults : List (String × Default) := [
  ("console-url", .derived "console" "/console/"),
  ("metrics-url", .derived "metrics" "/"),
  ("logging-url", .derived "console" "/console/"),
  ("type", .text "OSO"),
  ("service-account-token-encrypted", .flag true),
  ("capacity-exhausted", .flag false),
  ("token-provider-id", .text "")]

def find? (name : String) : Option Field := all.find? (·.name = name)

end Field

/-- The value that a default gives in a record with this API endpoint, if it gives one. -/
def Default.value? (api : Option Url) : Default → Option Json
  | .derived label path => (api.bind fun u => Endpoint.derive? u label path).map .str
  | .text s => some (.str s)
  | .flag b => some (.bool b)

/-- The endpoint that stands in for a missing key beside this API endpoint. -/
def defaultUrl? (field : String) (api : Url) : Option String :=
  match Field.defaults.lookup field with
  | some (.derived label path) => Endpoint.derive? api label path
  | _ => none

end Fleet.Config
