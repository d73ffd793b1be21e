/-
  Fleet/Server.lean
  =================
  **URLs of database servers.**

  The URL of a server tells its host, who asks and for which database, and parameters of the
  connection.  Whatever of this is handed on decoded must decode to text, and the parameters
  that are numbers, addresses or modes must be such.  Parameters that are not known do not
  count.
-/
import Fleet.Store.Fault
import Fleet.Text.Numeral
import Fleet.Text.Quoted
import Fleet.Url.Parser
import Fleet.Url.Query

namespace Fleet.Server

open Fleet.Text Fleet.Store

/-- The URL of a server, its parts as they are written. -/
structure Parts where
  username : List Char
  password : List Char
  host : List Char
  path : List Char
  query : List Char
deriving DecidableEq, Repr

/-- The parts of a text that is a URL and has two slashes behind its scheme. -/
def Parts.ofText (cs : List Char) : Parts :=
  let rest := ((Url.clean cs).dropWhile (· ≠ ':')).drop 3
  let (info, address) := Url.splitUserinfo (rest.takeWhile fun c => !Url.endsAuthority false c)
  let tail := (rest.dropWhile fun c => !Url.endsAuthority false c).takeWhile (· ≠ '#')
  { username := (info.getD []).takeWhile (· ≠ ':')
    password := ((info.getD []).dropWhile (· ≠ ':')).drop 1
    host := (Url.splitPort false address).1
    path := Url.Path.ofSegments (((tail.takeWhile (· ≠ '?')).drop 1).splitOnP (· == '/'))
    query := (tail.dropWhile (· ≠ '?')).drop 1 }

/-- Refuses a part that does not decode to text. -/
def checkText (cs : List Char) : Except Fault Unit :=
  match Utf8.decode (Url.Percent.decode cs) with
  | .ok _ => .ok ()
  | .error why => .error (.badLocation why.message)

/-- Refuses a number that is none, or is above the bound. -/
def checkNumber (bound : Nat) (value : String) : Except Fault Unit :=
  match Numeral.read bound value.toList with
  | .ok _ => .ok ()
  | .error why => .error (.badLocation why.message)

/-- The modes of encryption, which may be written in either case. -/
def encryptionModes : List String :=
  ["disable", "allow", "prefer", "require", "verify-ca", "verify-full"]

/-- Whether a text is an address of version 4, as four decimal bytes, or of version 6. -/
def isAddress (cs : List Char) : Bool :=
  (Url.Ipv6.embedded? cs).isSome || (Url.Ipv6.parse? cs).isSome

/-- Refuses a parameter that cannot have its value. -/
def checkParameter (key value : String) : Except Fault Unit :=
  match key with
  | "sslmode" | "ssl-mode" =>
    if encryptionModes.contains (String.ofList (value.toList.map Char.toLower)) then .ok ()
    else .error (.badSetting ("unknown value " ++ Quoted.encode value ++ " for `ssl_mode`"))
  | "statement-cache-capacity" => checkNumber 18446744073709551615 value
  | "hostaddr" =>
    if isAddress value.toList then .ok () else .error (.badLocation "invalid IP address syntax")
  | "port" => checkNumber 65535 value
  | _ => .ok ()

/-- Refuses parts that cannot be used.  A host is decoded only if that makes it a path. -/
def Parts.check (p : Parts) : Except Fault Unit := do
  if (Url.Percent.decode p.host).head? = some 0x2F then checkText p.host
  checkText p.username
  checkText p.password
  checkText (p.path.dropWhile (· = '/'))
  (Url.Query.parameters p.query).forM fun (key, value) => checkParameter key value

/-- Refuses a text that is not the URL of a server. -/
def check (cs : List Char) : Except Fault Unit :=
  match Url.read cs with
  | .ok _ => (Parts.ofText cs).check
  | .error why => .error (.badLocation why.message)

end Fleet.Server
