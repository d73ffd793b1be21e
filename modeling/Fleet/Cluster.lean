/-
  Fleet/Cluster.lean
  ==================
  **Clusters.**

  A cluster has a profile, a kind of deployment, and an identifier.  Profile and kind alone
  are a definition: what a cluster file says about a cluster, before the registry has given it
  an identifier.  What the registry gives out has the times of its row as well (`Registered`);
  whoever hands a cluster in has no say in these.

  A valid cluster has names and credentials that are not blank, and endpoints at all four
  of its URLs (`Cluster.check`).  Diagnostics show neither the token nor the client secret.
-/
import Fleet.Error
import Fleet.Text.Quoted
import Fleet.Uuid

namespace Fleet

open Fleet.Text

inductive Kind where
  | osd | ocp | oso
deriving DecidableEq, Repr

namespace Kind

def all : List Kind := [osd, ocp, oso]

/-- The name under which the kind is written and stored. -/
def name : Kind → String
  | osd => "OSD"
  | ocp => "OCP"
  | oso => "OSO"

def label : Kind → String
  | osd => "Osd"
  | ocp => "Ocp"
  | oso => "Oso"

def ofName? (s : String) : Option Kind := all.find? (·.name = s)

/-- The kind with this name, or the error that says there is none. -/
def parse (s : String) : Except Error Kind :=
  match ofName? s with
  | some k => .ok k
  | none => .error (.badParameter "type" (Config.Issue.Cause.unknownKind s).message)

end Kind

/-- What is recorded about a cluster, beside its kind and its identifier. -/
structure Profile where
  name : String
  /-- The endpoint of the API, by which the cluster is known. -/
  url : String
  consoleUrl : String
  metricsUrl : String
  loggingUrl : String
  /-- The domain of the applications on the cluster. -/
  appDns : String
  /-- Whether the cluster takes no new tenants. -/
  full : Bool
  token : String
  tokenUser : String
  tokenEncrypted : Bool
  clientId : String
  clientSecret : String
  clientScope : String
  /-- The stable name of whoever issues tokens for the cluster. -/
  tokenProvider : String
deriving DecidableEq, Repr

/-- What a cluster file says about a cluster. -/
structure Definition extends Profile where
  kind : Kind
deriving DecidableEq, Repr

structure Cluster extends Definition where
  id : Uuid
deriving DecidableEq, Repr

/-- A cluster as the registry gives it out. -/
structure Registered extends Cluster where
  /-- When the row of the cluster was created. -/
  created : Nat
  /-- When it was last written. -/
  updated : Nat
deriving DecidableEq, Repr

instance : Coe Registered Cluster := ⟨Registered.toCluster⟩

/-- Whether the cluster was written again after it was created. -/
def Registered.touched (c : Registered) : Bool := c.created < c.updated

/-- The cluster that a definition gives, with this identifier and token provider. -/
def Definition.withId (d : Definition) (id : Uuid) (tokenProvider : String) : Cluster :=
  { d with id, tokenProvider }

namespace Cluster

/-- What a valid cluster must have, by field. -/
def requiredTexts (c : Cluster) : List (String × String) := [
  ("name", c.name),
  ("app-dns", c.appDns),
  ("service-account-token", c.token),
  ("service-account-username", c.tokenUser),
  ("auth-client-id", c.clientId),
  ("auth-client-secret", c.clientSecret),
  ("auth-client-default-scope", c.clientScope)]

def urls (c : Cluster) : List (String × String) := [
  ("api-url", c.url),
  ("console-url", c.consoleUrl),
  ("metrics-url", c.metricsUrl),
  ("logging-url", c.loggingUrl)]

/-- Refuses a blank text. -/
def checkText (field text : String) : Except Error Unit :=
  if isBlankText text then .error (.badParameter field Config.Issue.Cause.blank.message) else .ok ()

/-- Refuses a text that names no endpoint. -/
def checkUrl (field text : String) : Except Error Unit :=
  match Endpoint.parse text with
  | .ok _ => .ok ()
  | .error why => .error (.badParameter field (why.message text))

/-- Refuses a cluster that is not valid, with the first thing that is wrong with it. -/
def check (c : Cluster) : Except Error Unit := do
  c.requiredTexts.forM fun (field, text) => checkText field text
  c.urls.forM fun (field, text) => checkUrl field text

/-- What takes the place of a secret in diagnostics. -/
def redacted : String := Quoted.encode "[REDACTED]"

/-- Names and values as they are shown between braces. -/
def showFields (fields : List (String × String)) : String :=
  ", ".intercalate (fields.map fun (k, v) => k ++ ": " ++ v)

def showFlag (b : Bool) : String := if b then "true" else "false"

def debug (c : Cluster) : String :=
  "Cluster \x7b " ++ showFields [
    ("id", c.id.render),
    ("name", Quoted.encode c.name),
    ("url", Quoted.encode c.url),
    ("console_url", Quoted.encode c.consoleUrl),
    ("metrics_url", Quoted.encode c.metricsUrl),
    ("logging_url", Quoted.encode c.loggingUrl),
    ("app_dns", Quoted.encode c.appDns),
    ("cluster_type", c.kind.label),
    ("capacity_exhausted", showFlag c.full),
    ("sa_token", redacted),
    ("sa_username", Quoted.encode c.tokenUser),
    ("sa_token_encrypted", showFlag c.tokenEncrypted),
    ("auth_client_id", Quoted.encode c.clientId),
    ("auth_client_secret", redacted),
    ("auth_default_scope", Quoted.encode c.clientScope),
    ("token_provider_id", Quoted.encode c.tokenProvider)] ++ " \x7d"

end Cluster

/-- The definition as diagnostics show it. -/
def Definition.debug (d : Definition) : String :=
  "ClusterDefinition \x7b " ++ Cluster.showFields [
    ("name", Quoted.encode d.name),
    ("api_url", Quoted.encode d.url),
    ("type", d.kind.label),
    ("token_provider_id", Quoted.encode d.tokenProvider)] ++ ", .. \x7d"

end Fleet
