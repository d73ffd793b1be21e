/-
  Fleet/Location.lean
  ===================
  **Where a database is.**

  The location of a database is a URL.  It names a server, or a database in memory, or a file,
  whose path is percent-encoded and may be followed by parameters, which say among other
  things whether the database may be changed.
-/
import Fleet.Error
import Fleet.Server
import Fleet.Store.Database

namespace Fleet

open Fleet.Text Fleet.Store

/-- What may be done with a database in a file. -/
inductive Mode where
  | writable
  /-- It is only read, and must be there. -/
  | readOnly
  /-- It is only read, and an empty file is made if there is none. -/
  | frozen
deriving DecidableEq, Repr

inductive Location where
  | server (url : String)
  | memory (writable : Bool)
  | file (path : String) (mode : Mode)
deriving DecidableEq, Repr

namespace Location

/-- The text behind a stem, taken off as often as it is there. -/
def afterStem (stem : List Char) (cs : List Char) : List Char :=
  if stem.isEmpty then cs
  else if stem.isPrefixOf cs then afterStem stem (cs.drop stem.length)
  else cs
termination_by cs.length
decreasing_by
  rename_i h hp
  have hl := (List.isPrefixOf_iff_prefix.1 hp).length_le
  have : 0 < stem.length := List.length_pos_iff.2 (by simpa using h)
  simp only [List.length_drop]
  omega

/-! ### Parameters -/

/-- What the parameters of a location say. -/
structure Options where
  inMemory : Bool := false
  readOnly : Bool := false
  frozen : Bool := false
  /-- What lies between the database and its file. -/
  layer : Option String := none
deriving DecidableEq, Repr

namespace Options

/-- The layers that there are; the last one keeps what would be files in memory. -/
def layers : List String := ["unix", "unix-none", "unix-dotfile", "unix-excl", "memdb"]

/-- The fault of a parameter that cannot have its value. -/
def unknownValue (key value : String) : Fault :=
  .badLocation ("unknown value " ++ Quoted.encode value ++ " for `" ++ key ++ "`")

def set (o : Options) (key value : String) : Except Fault Options :=
  match key with
  | "mode" =>
    match value with
    | "ro" => .ok { o with readOnly := true }
    | "rw" | "rwc" => .ok o
    | "memory" => .ok { o with inMemory := true }
    | _ => .error (unknownValue key value)
  | "cache" => if value = "private" || value = "shared" then .ok o else .error (unknownValue key value)
  | "immutable" =>
    if value = "true" || value = "1" then .ok { o with frozen := true }
    else if value = "false" || value = "0" then .ok { o with frozen := false }
    else .error (unknownValue key value)
  | "vfs" => .ok { o with layer := some value }
  | _ =>
    .error (.badLocation ("unknown query parameter `" ++ key ++ "` while parsing connection URL"))

/-- The name of a layer as the database sees it: it ends at a NUL, and spaces are plus signs. -/
def layerName (value : String) : String :=
  String.ofList ((value.toList.takeWhile (· ≠ '\x00')).map fun c => if c = ' ' then '+' else c)

/-- The path that a file name stands for: it may be a `file` URI, on this machine, in which
    the path is percent-encoded. -/
def pathOf (name : List Char) : Except Fault (List Char) :=
  match name with
  | 'f' :: 'i' :: 'l' :: 'e' :: ':' :: r =>
    let plain (cs : List Char) : List Char :=
      Utf8.readLossy (Url.Percent.decode (cs.takeWhile fun c => c ≠ '?' && c ≠ '#'))
    match r with
    | '/' :: '/' :: r =>
      let machine := r.takeWhile (· ≠ '/')
      if machine.isEmpty || machine = "localhost".toList then .ok (plain (r.dropWhile (· ≠ '/')))
      else .error (Backend.sqlite.refusal 1 ("invalid uri authority: " ++ String.ofList machine))
    | r => .ok (plain r)
  | name => .ok name

/-- The location of the database with this file name.  A name that goes through a layer, or
    comes with a word on its use, is a path; any other one may be a URI, and no NUL may be in
    it.  A path ends at a NUL.  Without a path the database is in memory. -/
def locate (o : Options) (name : String) : Except Fault Location := do
  let layer := o.layer.map layerName
  let direct := o.layer.isNone && !o.frozen
  if direct && name.toList.contains '\x00' then .error .badName
  else
    match layer.filter fun l => !layers.contains l with
    | some l => .error (Backend.sqlite.refusal 1 ("no such vfs: " ++ l))
    | none =>
      let path := (← if direct then pathOf name.toList else .ok name.toList).takeWhile (· ≠ '\x00')
      if o.inMemory || layer = some "memdb" || path.isEmpty || path = ":memory:".toList then
        return memory (!o.readOnly)
      else
        return file (String.ofList path)
          (if o.readOnly then .readOnly else if o.frozen then .frozen else .writable)

end Options

/-- The location of a database in memory or in a file. -/
def parseFile (cs : List Char) : Except Fault Location := do
  let path := cs.takeWhile (· ≠ '?')
  let name ←
    match Utf8.decode (Url.Percent.decode path) with
    | .ok s => .ok s
    | .error why => .error (.badLocation why.message)
  let start : Options := { inMemory := path == ":memory:".toList }
  let o ← (Url.Query.parameters ((cs.dropWhile (· ≠ '?')).drop 1)).foldlM
    (fun (o : Options) (key, value) => o.set key value) start
  o.locate name

def parse (s : String) : Except Error Location :=
  let cs := s.toList
  if "postgres://".toList.isPrefixOf cs || "postgresql://".toList.isPrefixOf cs then
    ((Server.check cs).map fun _ => server s).mapError .database
  else if "sqlite:".toList.isPrefixOf cs then
    (parseFile (afterStem "sqlite:".toList (afterStem "sqlite://".toList cs))).mapError .database
  else .error (.badParameter "database-url" "expected a postgres:// or sqlite: URL")

/-! ### Opening -/

def backend : Location → Backend
  | server _ => .postgres
  | memory writable => { Backend.sqlite with writable }
  | file _ mode => { Backend.sqlite with writable := mode == .writable }

/-- The error of a file that cannot be opened. -/
def unopened : Error := .database (Backend.sqlite.refusal 14 "unable to open database file")

/-- The error of a directory that is opened to be read. -/
def unreadable : Error := .database (Backend.sqlite.refusal 266 "disk I/O error")

/-- The error of a file that holds something else. -/
def foreign : Error := .unprepared (Backend.sqlite.refusal 26 "file is not a database")

/-- The error of a database without tables in which none can be made. -/
def unprepared : Error := .unprepared Backend.sqlite.unwritable

/-- The directory in which the file of a path is. -/
def directory (path : String) : String :=
  let cs := path.toList
  let dir := (cs.reverse.dropWhile (· ≠ '/')).drop 1 |>.reverse
  if cs.contains '/' then (if dir.isEmpty then "/" else String.ofList dir) else "."

def begin? (l : Location) : Except Error Database :=
  if l.backend.writable then .ok (Database.create l.backend) else .error unprepared

/-- Opens the database at a location.  The file of a path must be in a directory, and not be
    one itself. -/
def connect (isDirectory : String → Bool) (found : String → Medium) (l : Location) :
    Except Error Database :=
  match l with
  | server _ | memory _ => l.begin?
  | file path mode =>
    if isDirectory path then .error (if mode = .readOnly then unreadable else unopened)
    else if !isDirectory (directory path) then .error unopened
    else
      match found path with
      | .holding db => .ok { db with backend := l.backend }
      | .foreign => .error foreign
      | .empty => l.begin?
      | .absent => if mode = .readOnly then .error unopened else l.begin?

/-- What is then in the place of the file, if that is not what was found there. -/
def residue (isDirectory : String → Bool) (found : String → Medium) (l : Location) :
    Option (String × Medium) :=
  match l, l.connect isDirectory found with
  | file path _, .ok db => some (path, .holding db)
  | file path .frozen, .error _ =>
    if isDirectory (directory path) && !isDirectory path && (found path).isAbsent then
      some (path, .empty)
    else none
  | _, _ => none

end Location

end Fleet
