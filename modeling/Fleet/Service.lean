/-
  Fleet/Service.lean
  ==================
  **Requests to the registry.**

  A change is first checked against the policy, before anything else is looked at, and then
  made in a transaction of its own.  Reading needs no permission and no transaction.

  A cluster that is to be saved is brought into its normal form first: its URLs get their final
  slash, and the endpoints it leaves blank are derived from that of its API.
-/
import Fleet.Access
import Fleet.Config.Field
import Fleet.Context
import Fleet.Sync

namespace Fleet

open Fleet.Text Fleet.Store

namespace Cluster

/-- The text of an endpoint beside the API: the given one with its final slash, or the derived
    one if it is blank. -/
def besideApi (api : Url) (field text : String) : Except Error String :=
  if isBlankText text then
    match Config.defaultUrl? field api with
    | some s => .ok s
    | none => .error (.badParameter field "cannot be derived from the API URL")
  else .ok (withSlash text)

/-- The normal form of a cluster, if it is valid. -/
def normalize (c : Cluster) : Except Error Cluster := do
  let api ← (Endpoint.parse c.url).mapError fun why => .badParameter "api-url" (why.message c.url)
  let consoleUrl ← besideApi api "console-url" c.consoleUrl
  let metricsUrl ← besideApi api "metrics-url" c.metricsUrl
  let loggingUrl ← besideApi api "logging-url" c.loggingUrl
  let n := { c with url := withSlash c.url, consoleUrl, metricsUrl, loggingUrl }
  n.check
  return n

end Cluster

structure Service where
  terms : Terms
  policy : Policy

namespace Service

/-! ### Units of work -/

/-- Creates a cluster in its normal form, or overwrites the one with its URL.  That one keeps
    its identifier, and its token provider unless another one is given. -/
def saveWork (c : Cluster) : Work σ Registered := do
  match ← Work.ask (.find c.url) with
  | some old =>
    Work.ask (.save { c with id := old.id, tokenProvider := firstGiven c.tokenProvider old.tokenProvider })
  | none =>
    let id ← if c.id = Uuid.nil then Work.fresh else pure c.id
    Work.ask (.create { c with id, tokenProvider := firstGiven c.tokenProvider id.render })

/-- Deletes a cluster, which must be there. -/
def deleteWork (id : Uuid) : Work σ Unit := do
  if ← Work.ask (.delete id) then pure ()
  else .fail (.notFound .cluster id.render)

/-- Links an identity to the cluster at a URL. -/
def linkWork (identity : Uuid) (url : String) (ignoreExisting : Bool) : Work σ Unit := do
  match ← Work.ask (.find url) with
  | none => .fail (.notFound .cluster url)
  | some c =>
    match ← Work.ask (.loadLink identity c.id) with
    | some _ =>
      if ignoreExisting then pure ()
      else .fail (.alreadyExists .link (linkKey identity c.id))
    | none =>
      let _ ← Work.ask (.link identity c.id)
      pure ()

/-- Takes the link of an identity to the cluster at a URL away, which must be there. -/
def unlinkWork (identity : Uuid) (url : String) : Work σ Unit := do
  let n ← Work.ask (.unlink identity url)
  if n = 0 then .fail (.notFound .link (identity.render ++ " @ " ++ url)) else pure ()

/-! ### Changes -/

/-- Runs work for a caller, if the policy allows it. -/
def change (s : Service) (who : Caller) (what : Action) (w : Except Error (Work Unit α))
    (r : Registry) : Except Error α × Registry :=
  match s.policy.authorize who what with
  | .error e => (.error e, r)
  | .ok () =>
    match w with
    | .error e => (.error e, r)
    | .ok w => r.execute s.terms w

def save (s : Service) (who : Caller) (c : Cluster) : Registry → Except Error Registered × Registry :=
  s.change who .save (c.normalize.map saveWork)

def delete (s : Service) (who : Caller) (id : Uuid) : Registry → Except Error Unit × Registry :=
  s.change who .delete (.ok (deleteWork id))

def link (s : Service) (who : Caller) (identity : Uuid) (url : String) (ignoreExisting : Bool) :
    Registry → Except Error Unit × Registry :=
  s.change who .link (.ok (linkWork identity (withSlash url) ignoreExisting))

def unlink (s : Service) (who : Caller) (identity : Uuid) (url : String) :
    Registry → Except Error Unit × Registry :=
  s.change who .unlink (.ok (unlinkWork identity (withSlash url)))

/-! ### Reading -/

/-- What was looked up, which must be there. -/
def found (key : String) : Except Error (Option Registered) → Except Error Registered
  | .ok (some c) => .ok c
  | .ok none => .error (.notFound .cluster key)
  | .error e => .error e

def load (id : Uuid) (r : Registry) : Except Error Registered × Registry :=
  let (reply, r) := r.call (.load id)
  (found id.render reply, r)

def find (url : String) (r : Registry) : Except Error Registered × Registry :=
  let (reply, r) := r.call (.find (withSlash url))
  (found (withSlash url) reply, r)

def list (kind : Option Kind) (r : Registry) : Except Error (List Registered) × Registry :=
  r.call (.list kind)

def clustersOf (identity : Uuid) (r : Registry) : Except Error (List Registered) × Registry :=
  r.call (.clustersOf identity)

end Service

end Fleet
