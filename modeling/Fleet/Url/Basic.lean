/-
  Fleet/Url/Basic.lean
  ====================
  **Web URLs.**

  A web URL has the scheme `http` or `https`, a host, and a path that begins with a slash.
  User name, password, path, query and fragment are held as they are written, percent-encoded.
  A port is held only when it is not the one of the scheme.
-/
import Fleet.Url.Host

namespace Fleet.Url

inductive Scheme where
  | http | https
deriving DecidableEq, Repr

def Scheme.name : Scheme → List Char
  | .http => ['h', 't', 't', 'p']
  | .https => ['h', 't', 't', 'p', 's']

/-- The port that need not be written. -/
def Scheme.port : Scheme → Nat
  | .http => 80
  | .https => 443

/-- Who asks, where, and at which port. -/
structure Authority where
  username : List Char
  password : List Char
  host : Host
  port : Option Nat
deriving DecidableEq, Repr

namespace Authority

/-- User name and password in front of the host, if there are any. -/
def userinfo (username password : List Char) : List Char :=
  if username.isEmpty && password.isEmpty then []
  else username ++ (if password.isEmpty then [] else ':' :: password) ++ ['@']

def render (a : Authority) : List Char :=
  userinfo a.username a.password ++ a.host.render ++
    match a.port with
    | none => []
    | some p => ':' :: Nat.toDigits 10 p

end Authority

end Fleet.Url

namespace Fleet

structure Url where
  scheme : Url.Scheme
  authority : Url.Authority
  path : List Char
  query : Option (List Char)
  fragment : Option (List Char)
deriving DecidableEq, Repr

namespace Url

def chars (u : Url) : List Char :=
  u.scheme.name ++ [':', '/', '/'] ++ u.authority.render ++ u.path ++
    (match u.query with | none => [] | some q => '?' :: q) ++
    (match u.fragment with | none => [] | some f => '#' :: f)

def render (u : Url) : String := String.ofList u.chars

def hostText (u : Url) : String := String.ofList u.authority.host.render

end Url

end Fleet
