/-
  Fleet/Access.lean
  =================
  **Who may change the registry.**

  Reading is open to everyone.  Changes are allowed to every caller, or only to the service
  accounts on a list; users are never on that list.
-/
import Fleet.Error
import Fleet.Uuid

namespace Fleet

inductive Caller where
  | serviceAccount (name : String)
  | user (id : Uuid)
deriving DecidableEq, Repr

def Caller.render : Caller → String
  | .serviceAccount n => "service account '" ++ n ++ "'"
  | .user id => "user " ++ id.render

inductive Action where
  | save | delete | link | unlink
deriving DecidableEq, Repr

def Action.render : Action → String
  | .save => "save cluster"
  | .delete => "delete cluster"
  | .link => "link identity"
  | .unlink => "unlink identity"

inductive Policy where
  | everyone
  /-- The service accounts with these names. -/
  | only (names : List String)
deriving DecidableEq, Repr

namespace Policy

/-- The policy of an optional list of service accounts. -/
def ofAccounts : Option (List String) → Policy
  | none => everyone
  | some names => only names

def allows : Policy → Caller → Bool
  | everyone, _ => true
  | only names, .serviceAccount n => names.contains n
  | only _, .user _ => false

/-- Refuses a caller that is not allowed to make changes. -/
def authorize (p : Policy) (who : Caller) (what : Action) : Except Error Unit :=
  if p.allows who then .ok ()
  else .error (.unauthorized (who.render ++ " may not " ++ what.render))

end Policy

end Fleet
