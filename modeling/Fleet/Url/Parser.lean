/-
  Fleet/Url/Parser.lean
  =====================
  **Reading URLs.**

  Controls and spaces at the ends of a text are cut off, and tabs and line ends are left out
  of it.  What follows the scheme is read by the kind of the scheme:

  * in the web schemes, and the others that work like them, any number of slashes or
    backslashes stands in front of the authority, which must name a host;
  * in other schemes an authority is read after two slashes only, and its host stays as it is;
  * a `file` URL may name a host after two slashes.

  A text whose scheme is not one of the web schemes is only checked (`Reading.foreign`).
-/
import Fleet.Text.Blank
import Fleet.Url.Basic
import Fleet.Url.Path

namespace Fleet.Url

open Fleet.Text

inductive Reading where
  | web (url : Url)
  | foreign
deriving DecidableEq, Repr

/-- The text without controls and spaces at its ends and without tabs and line ends. -/
def clean (cs : List Char) : List Char :=
  (strip (·.toNat ≤ 32) cs).filter fun c => !(c == '\t' || c == '\n' || c == '\r')

/-- The scheme in lower case, and what follows its colon. -/
def scheme? (cs : List Char) : Option (List Char × List Char) :=
  let name := cs.takeWhile fun c => c.isAlphanum || c == '+' || c == '-' || c == '.'
  match cs.dropWhile fun c => c.isAlphanum || c == '+' || c == '-' || c == '.' with
  | ':' :: r => if name.head?.any Char.isAlpha then some (name.map Char.toLower, r) else none
  | _ => none

/-! ### Authorities -/

/-- Whether a character ends the authority. -/
def endsAuthority (special : Bool) (c : Char) : Bool :=
  c == '/' || c == '?' || c == '#' || (special && c == '\\')

/-- The text in front of the last at-sign, if there is one, and the text behind it. -/
def splitUserinfo (cs : List Char) : Option (List Char) × List Char :=
  let host := (cs.reverse.takeWhile (· ≠ '@')).reverse
  if host.length = cs.length then (none, cs) else (some (cs.take (cs.length - host.length - 1)), host)

def credentials (info : List Char) : List Char × List Char :=
  (Percent.encode Percent.inUserinfo (info.takeWhile (· ≠ ':')),
    Percent.encode Percent.inUserinfo ((info.dropWhile (· ≠ ':')).drop 1))

/-- The host, and the rest from the first colon that is not between brackets. -/
def splitPort (inside : Bool) : List Char → List Char × List Char
  | [] => ([], [])
  | c :: r =>
    if c = ':' && !inside then ([], c :: r)
    else
      let p := splitPort (if c = '[' then true else if c = ']' then false else inside) r
      (c :: p.1, p.2)

/-- The port behind a colon; a backslash ends it. -/
def readPort (cs : List Char) : Except Fault (Option Nat) :=
  let cs := cs.takeWhile (· ≠ '\\')
  let ds := cs.takeWhile Char.isDigit
  let n := ds.foldl (fun n c => 10 * n + (c.toNat - 48)) 0
  if 65535 < n || ds.length ≠ cs.length then .error .badPort
  else .ok (if ds.isEmpty then none else some n)

/-- The authority of a URL with one of the special schemes. -/
def Authority.parse (cs : List Char) : Except Fault Authority := do
  let (info, rest) := splitUserinfo cs
  let (username, password) := credentials (info.getD [])
  let (hostText, tail) := splitPort false rest
  if hostText.isEmpty then .error .emptyHost
  else do
    let host ← Host.parse hostText
    let number ← readPort (tail.drop 1)
    return { username, password, host, port := number }

/-- Checks the authority of a URL with another scheme; `more` says that something follows it. -/
def Authority.check (more : Bool) (cs : List Char) : Except Fault Unit := do
  let (info, rest) := splitUserinfo cs
  if info = some [] && rest.isEmpty && more then .error .emptyHost
  else
    let (username, password) := credentials (info.getD [])
    let (hostText, tail) := splitPort false rest
    Host.checkPlain hostText
    if hostText.isEmpty && !tail.isEmpty then .error .emptyHost
    else
      let _ ← readPort (tail.drop 1)
      if hostText.isEmpty && !(username.isEmpty && password.isEmpty) then .error .emptyHost
      else .ok ()

/-! ### Whole URLs -/

/-- The schemes that work like the web schemes. -/
def isSpecial (scheme : List Char) : Bool :=
  ["http", "https", "ws", "wss", "ftp"].any (·.toList == scheme)

/-- Path, query and fragment of a web URL. -/
def tail (cs : List Char) : List Char × Option (List Char) × Option (List Char) :=
  let path := cs.takeWhile fun c => c ≠ '?' && c ≠ '#'
  let afterPath := cs.dropWhile fun c => c ≠ '?' && c ≠ '#'
  let query := afterPath.takeWhile (· ≠ '#')
  let fragment := afterPath.dropWhile (· ≠ '#')
  (Path.parse path,
    (match query with
      | '?' :: q => some (Percent.encode Percent.inQuery q)
      | _ => none),
    (match fragment with
      | '#' :: f => some (Percent.encode Percent.inFragment f)
      | _ => none))

/-- The web URL with this scheme whose authority begins here. -/
def web (scheme : Scheme) (cs : List Char) : Except Fault Url := do
  let a ← Authority.parse (cs.takeWhile fun c => !endsAuthority true c)
  let (path, query, fragment) := tail (cs.dropWhile fun c => !endsAuthority true c)
  return { scheme, authority := { a with port := a.port.filter (· ≠ scheme.port) }, path, query, fragment }

def checkFile : List Char → Except Fault Unit
  | a :: b :: r =>
    if Path.isSlash a && Path.isSlash b then
      let host := r.takeWhile fun c => !endsAuthority true c
      if host.isEmpty || Path.isDrive host then .ok () else (Host.parse host).map fun _ => ()
    else .ok ()
  | _ => .ok ()

def checkForeign (scheme rest : List Char) : Except Fault Unit :=
  if isSpecial scheme then
    (Authority.parse ((rest.dropWhile Path.isSlash).takeWhile fun c => !endsAuthority true c)).map fun _ => ()
  else if scheme = ['f', 'i', 'l', 'e'] then checkFile rest
  else
    match rest with
    | '/' :: '/' :: r =>
      Authority.check (r.any (endsAuthority false)) (r.takeWhile fun c => !endsAuthority false c)
    | _ => .ok ()

def read (cs : List Char) : Except Fault Reading :=
  match scheme? (clean cs) with
  | none => .error .noScheme
  | some (scheme, rest) =>
    if scheme = Scheme.https.name then (web .https (rest.dropWhile Path.isSlash)).map .web
    else if scheme = Scheme.http.name then (web .http (rest.dropWhile Path.isSlash)).map .web
    else (checkForeign scheme rest).map fun _ => .foreign

/-! ### Changing a URL -/

/-- The URL with the host that a text names, what follows a colon in the text aside. -/
def withHost? (u : Url) (text : List Char) : Option Url :=
  let host :=
    if text.head? = some '[' && text.getLast? = some ']' then text else text.takeWhile (· ≠ ':')
  if host.isEmpty then none
  else
    match Host.parse host with
    | .ok h => some { u with authority := { u.authority with host := h } }
    | .error _ => none

/-- The URL with the path that a text names, and without query and fragment. -/
def withPath (u : Url) (text : List Char) : Url :=
  { u with
    path := Path.parse (text.filter fun c => !(c == '\t' || c == '\n' || c == '\r')),
    query := none, fragment := none }

end Fleet.Url
