/-
  Fleet/Config/Definition.lean
  ============================
  **Definitions as JSON values.**

  A definition is written as an object with a key for each of its fields.  It is read from
  such an object, in which unknown keys do not matter, or from the list of its values in the
  order of the keys.  The keys of an object are read in their order; only when all values
  there are good is a missing one reported.
-/
import Fleet.Cluster
import Fleet.Json.Basic

namespace Fleet

open Fleet.Text

namespace Definition

/-! ### Writing -/

/-- The values of a definition by key, in the order of the list form. -/
def toPairs (d : Definition) : List (String × Json) := [
  ("name", .str d.name),
  ("api-url", .str d.url),
  ("console-url", .str d.consoleUrl),
  ("metrics-url", .str d.metricsUrl),
  ("logging-url", .str d.loggingUrl),
  ("app-dns", .str d.appDns),
  ("service-account-token", .str d.token),
  ("service-account-username", .str d.tokenUser),
  ("service-account-token-encrypted", .bool d.tokenEncrypted),
  ("token-provider-id", .str d.tokenProvider),
  ("auth-client-id", .str d.clientId),
  ("auth-client-secret", .str d.clientSecret),
  ("auth-client-default-scope", .str d.clientScope),
  ("type", .str d.kind.name),
  ("capacity-exhausted", .bool d.full)]

/-- The object that stands for a definition. -/
def toJson (d : Definition) : Json := .obj (Json.Fields.ofList d.toPairs)

/-! ### Reading values -/

def describe : Json → String
  | .null => "null"
  | .bool b => "boolean `" ++ (if b then "true" else "false") ++ "`"
  | .num (.int i) => "integer `" ++ toString i ++ "`"
  | .num (.double bits) => "floating point `" ++ Json.Double.render bits ++ "`"
  | .str s => "string " ++ Quoted.encode s
  | .arr _ => "sequence"
  | .obj _ => "map"

/-- A value of another type than the one expected. -/
def mistyped (v : Json) (expected : String) : Except Config.DecodeFault α :=
  .error (.wrongType (describe v) expected)

def readText : Json → Except Config.DecodeFault String
  | .str s => .ok s
  | v => mistyped v "a string"

def readFlag : Json → Except Config.DecodeFault Bool
  | .bool b => .ok b
  | v => mistyped v "a boolean"

def readName (s : String) : Except Config.DecodeFault Kind :=
  match Kind.ofName? s with
  | some k => .ok k
  | none => .error (.unknownVariant s)

/-- A kind: its name, or an object with its name as the only key and nothing in it. -/
def readKind : Json → Except Config.DecodeFault Kind
  | .str s => readName s
  | .obj [(s, v)] => do
    let k ← readName s
    match v with
    | .null => return k
    | v => mistyped v "unit"
  | .obj _ => .error .notSingle
  | v => mistyped v "string or map"

/-! ### Reading definitions -/

/-- A definition with some of its values still missing. -/
structure Draft where
  name : Option String := none
  url : Option String := none
  consoleUrl : Option String := none
  metricsUrl : Option String := none
  loggingUrl : Option String := none
  appDns : Option String := none
  token : Option String := none
  tokenUser : Option String := none
  tokenEncrypted : Option Bool := none
  tokenProvider : Option String := none
  clientId : Option String := none
  clientSecret : Option String := none
  clientScope : Option String := none
  kind : Option Kind := none
  full : Option Bool := none

namespace Draft

def put (d : Draft) (key : String) (v : Json) : Except Config.DecodeFault Draft :=
  match key with
  | "name" => return { d with name := ← readText v }
  | "api-url" => return { d with url := ← readText v }
  | "console-url" => return { d with consoleUrl := ← readText v }
  | "metrics-url" => return { d with metricsUrl := ← readText v }
  | "logging-url" => return { d with loggingUrl := ← readText v }
  | "app-dns" => return { d with appDns := ← readText v }
  | "service-account-token" => return { d with token := ← readText v }
  | "service-account-username" => return { d with tokenUser := ← readText v }
  | "service-account-token-encrypted" => return { d with tokenEncrypted := ← readFlag v }
  | "token-provider-id" => return { d with tokenProvider := ← readText v }
  | "auth-client-id" => return { d with clientId := ← readText v }
  | "auth-client-secret" => return { d with clientSecret := ← readText v }
  | "auth-client-default-scope" => return { d with clientScope := ← readText v }
  | "type" => return { d with kind := ← readKind v }
  | "capacity-exhausted" => return { d with full := ← readFlag v }
  | _ => return d

/-- The value of a key, which must be there. -/
def need (key : String) : Option α → Except Config.DecodeFault α
  | some a => .ok a
  | none => .error (.missingField key)

/-- The definition, if no value is missing. -/
def finish (d : Draft) : Except Config.DecodeFault Definition := do
  let name ← need "name" d.name
  let url ← need "api-url" d.url
  let consoleUrl ← need "console-url" d.consoleUrl
  let metricsUrl ← need "metrics-url" d.metricsUrl
  let loggingUrl ← need "logging-url" d.loggingUrl
  let appDns ← need "app-dns" d.appDns
  let token ← need "service-account-token" d.token
  let tokenUser ← need "service-account-username" d.tokenUser
  let tokenEncrypted ← need "service-account-token-encrypted" d.tokenEncrypted
  let tokenProvider ← need "token-provider-id" d.tokenProvider
  let clientId ← need "auth-client-id" d.clientId
  let clientSecret ← need "auth-client-secret" d.clientSecret
  let clientScope ← need "auth-client-default-scope" d.clientScope
  let kind ← need "type" d.kind
  let full ← need "capacity-exhausted" d.full
  return {
    name, url, consoleUrl, metricsUrl, loggingUrl, appDns, full, token, tokenUser,
    tokenEncrypted, clientId, clientSecret, clientScope, tokenProvider, kind }

/-- Puts the pairs in, one after another. -/
def putAll (d : Draft) (pairs : List (String × Json)) : Except Config.DecodeFault Draft :=
  pairs.foldlM (fun d (key, v) => d.put key v) d

end Draft

/-- The keys in the order of the list form. -/
def keys : List String := Config.Field.all.map (·.name)

/-- The definition that a value stands for. -/
def ofJson : Json → Except Config.DecodeFault Definition
  | .obj o => do (← Draft.putAll {} o).finish
  | .arr vs => do
    let d ← Draft.putAll {} (keys.zip vs)
    if vs.length < keys.length then
      .error (.wrongLength vs.length "struct ClusterDefinition with 15 elements")
    else if keys.length < vs.length then .error (.wrongLength vs.length "fewer elements in array")
    else d.finish
  | v => mistyped v "struct ClusterDefinition"

end Definition

end Fleet
