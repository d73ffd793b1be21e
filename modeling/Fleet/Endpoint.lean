/-
  Fleet/Endpoint.lean
  ===================
  **The endpoints of a cluster.**

  An endpoint is a web URL.  Endpoints are written by hand, so blanks around one do not count
  (`Endpoint.parse`), and the text under which one is kept ends in a slash (`withSlash`).

  The other endpoints of a cluster can be derived from that of its API: the first label of the
  host gives way to another one, and scheme, credentials and port stay (`Endpoint.derive?`).
-/
import Fleet.Text.Blank
import Fleet.Url.Parser

namespace Fleet

open Fleet.Text

/-- The characters of a text that ends in a slash: the same ones, or with one more. -/
def slashed (cs : List Char) : List Char :=
  if cs.getLast? = some '/' then cs else cs ++ ['/']

/-- The text without blanks around it and with a slash at its end. -/
def withSlash (s : String) : String :=
  String.ofList (slashed (strip isBlank s.toList))

namespace Endpoint

inductive Fault where
  | notUrl (why : Url.Fault)
  /-- It is a URL whose scheme is not one of the web. -/
  | otherScheme
deriving DecidableEq, Repr

def Fault.message (raw : String) : Fault → String
  | .notUrl why => "'" ++ raw ++ "' is not a valid URL: " ++ why.message
  | .otherScheme => "'" ++ raw ++ "' must use http or https"

def parse (raw : String) : Except Fault Url :=
  match Url.read (strip isBlank raw.toList) with
  | .ok (.web u) => .ok u
  | .ok .foreign => .error .otherScheme
  | .error why => .error (.notUrl why)

def isValid (raw : String) : Bool := (parse raw).isOk

/-- The host with its first label replaced.  A host of one label is put behind the new one. -/
def sibling (label host : List Char) : List Char :=
  label ++ '.' ::
    match host.dropWhile (· ≠ '.') with
    | [] => host
    | _ :: rest => rest

/-- The endpoint beside `api` with this first label and this path.  There is none when the
    host so named is no host. -/
def derive? (api : Url) (label path : String) : Option String :=
  (api.withHost? (sibling label.toList api.authority.host.render)).map fun u =>
    withSlash (u.withPath path.toList).render

end Endpoint

end Fleet
