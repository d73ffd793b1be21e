/-
  Fleet/Store/Archive.lean
  ========================
  **Databases as JSON values.**

  An archive holds the tables and the clock of a database.  It is written with a key for every
  column, and read only if every column is there and of the right kind.
-/
import Fleet.Json.Basic
import Fleet.Store.Database

namespace Fleet.Store

def natOf? : Json → Option Nat
  | .num (.int i) => if i < 0 then none else some i.toNat
  | _ => none

def flagOf? : Json → Option Bool
  | .bool b => some b
  | _ => none

/-- The items of a list, each of them read. -/
def itemsOf? (read : Json → Option α) : Json → Option (List α)
  | .arr items => items.mapM read
  | _ => none

def Row.toJson (r : Row) : Json := .obj (Json.Fields.ofList [
  ("cluster_id", .str r.id), ("name", .str r.name), ("url", .str r.url),
  ("console_url", .str r.consoleUrl), ("metrics_url", .str r.metricsUrl),
  ("logging_url", .str r.loggingUrl), ("app_dns", .str r.appDns), ("cluster_type", .str r.kind),
  ("capacity_exhausted", .bool r.full), ("sa_token", .str r.token),
  ("sa_username", .str r.tokenUser), ("sa_token_encrypted", .bool r.tokenEncrypted),
  ("auth_client_id", .str r.clientId), ("auth_client_secret", .str r.clientSecret),
  ("auth_default_scope", .str r.clientScope), ("token_provider_id", .str r.tokenProvider),
  ("created_at", .num (.int r.created)), ("updated_at", .num (.int r.updated))])

def Row.ofJson? (j : Json) : Option Row := do
  let text (k : String) : Option String := (j.get? k).bind Json.str?
  let flag (k : String) : Option Bool := (j.get? k).bind flagOf?
  let time (k : String) : Option Nat := (j.get? k).bind natOf?
  return {
    id := ← text "cluster_id"
    name := ← text "name"
    url := ← text "url"
    consoleUrl := ← text "console_url"
    metricsUrl := ← text "metrics_url"
    loggingUrl := ← text "logging_url"
    appDns := ← text "app_dns"
    kind := ← text "cluster_type"
    full := ← flag "capacity_exhausted"
    token := ← text "sa_token"
    tokenUser := ← text "sa_username"
    tokenEncrypted := ← flag "sa_token_encrypted"
    clientId := ← text "auth_client_id"
    clientSecret := ← text "auth_client_secret"
    clientScope := ← text "auth_default_scope"
    tokenProvider := ← text "token_provider_id"
    created := ← time "created_at"
    updated := ← time "updated_at" }

def Link.toJson (l : Link) : Json := .obj (Json.Fields.ofList [
  ("identity_id", .str l.identity.render), ("cluster_id", .str l.cluster.render),
  ("created_at", .num (.int l.created))])

def Link.ofJson? (j : Json) : Option Link := do
  let id (k : String) : Option Uuid := ((j.get? k).bind Json.str?).bind fun s => (Uuid.parse s).toOption
  return {
    identity := ← id "identity_id"
    cluster := ← id "cluster_id"
    created := ← (j.get? "created_at").bind natOf? }

namespace Database

def toJson (db : Database) : Json := .obj (Json.Fields.ofList [
  ("clusters", .arr (db.tables.rows.map Row.toJson)),
  ("identity_clusters", .arr (db.tables.links.map Link.toJson)),
  ("clock", .num (.int db.clock))])

/-- The database of this kind in an archive. -/
def ofJson? (b : Backend) (j : Json) : Option Database := do
  let rows ← (j.get? "clusters").bind (itemsOf? Row.ofJson?)
  let links ← (j.get? "identity_clusters").bind (itemsOf? Link.ofJson?)
  let clock ← (j.get? "clock").bind natOf?
  return { create b with tables := ⟨rows, links⟩, clock }

end Database

end Fleet.Store
