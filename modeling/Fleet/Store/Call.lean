/-
  Fleet/Store/Call.lean
  =====================
  **The calls that the registry makes on its store.**

  A call reads from the tables or runs one statement on them.  What a refused statement means
  to the caller depends on the call: a taken key is a conflict, a missing cluster is not found.
  A call that fails leaves the tables as they were.

  Databases differ in how they report errors and in what a failed statement does to the rest
  of its transaction (`Backend`).
-/
import Fleet.Store.Tables

namespace Fleet.Store

/-! ### Backends -/

/-- What databases differ in. -/
structure Backend where
  name : String
  /-- Errors come with a number. -/
  numbersErrors : Bool
  /-- A failed statement makes the rest of its transaction fail too. -/
  abortsOnFailure : Bool
  /-- Everything in a transaction happens at the time when it began. -/
  clockStands : Bool
  /-- A transaction can be asked for an isolation level. -/
  hasLevels : Bool
  /-- Statements may change the tables. -/
  writable : Bool
deriving DecidableEq, Repr

namespace Backend

def sqlite : Backend := ⟨"sqlite", true, false, false, false, true⟩

def postgres : Backend := ⟨"postgres", false, true, true, true, true⟩

/-- An error of the database, with its number. -/
def refusal (b : Backend) (code : Nat) (text : String) : Fault :=
  .refused (if b.numbersErrors then some code else none) text

/-- The error of a statement that may not change the tables. -/
def unwritable (b : Backend) : Fault := b.refusal 8 "attempt to write a readonly database"

def trapped (b : Backend) (message : String) : Fault := b.refusal 1811 message

end Backend

/-! ### Calls -/

/-- A call, by the type of its answer. -/
inductive Call : Type → Type where
  | create (c : Cluster) : Call Registered
  | save (c : Cluster) : Call Registered
  | load (id : Uuid) : Call (Option Registered)
  | find (url : String) : Call (Option Registered)
  | delete (id : Uuid) : Call Bool
  | list (kind : Option Kind) : Call (List Registered)
  | link (identity cluster : Uuid) : Call Link
  | loadLink (identity cluster : Uuid) : Call (Option Link)
  | unlink (identity : Uuid) (url : String) : Call Nat
  | links (identity : Uuid) : Call (List Link)
  | clustersOf (identity : Uuid) : Call (List Registered)

structure Effect (α : Type) where
  reply : Except Error α
  tables : Tables
  refused : Bool := false
  /-- The transaction of the call can no longer be committed. -/
  dooms : Bool := false

def linkKey (identity cluster : Uuid) : String := identity.render ++ "/" ++ cluster.render

namespace Call

/-- The clusters in some rows; the first row that holds none is reported. -/
def decodeAll (rows : List Row) : Except Error (List Registered) := rows.mapM Row.decode

/-- The cluster in a row, if there is a row. -/
def decode? : Option Row → Except Error (Option Registered)
  | none => .ok none
  | some r => r.decode.map some

/-- An answer that changes nothing. -/
def answer (t : Tables) (reply : Except Error α) : Effect α := { reply, tables := t }

/-- A refused statement, with what a taken key means. -/
def refuse (b : Backend) (t : Tables) (taken : Error) : Refusal → Effect α
  | .trapped m => { reply := .error (.database (b.trapped m)), tables := t, refused := true }
  | .taken | .dangling => { reply := .error taken, tables := t, refused := true }

/-- Whether a call changes the tables, if only it finds what to change. -/
def writes : Call α → Bool
  | create _ | save _ | delete _ | link _ _ | unlink _ _ => true
  | load _ | find _ | list _ | loadLink _ _ | links _ | clustersOf _ => false

/-- What a call does at a time to tables that may be changed. -/
def run (b : Backend) (traps : List Trap) (now : Nat) (t : Tables) : Call α → Effect α
  | .create c =>
    match t.insert traps now c with
    | .error why => refuse b t (.alreadyExists .cluster c.url) why
    | .ok (row, t') =>
      { reply := row.decode, tables := t', dooms := (sprung? traps .commit c.name).isSome }
  | .save c =>
    match t.update traps now c with
    | .error why => refuse b t (.alreadyExists .cluster c.url) why
    | .ok none => answer t (.error (.notFound .cluster c.id.render))
    | .ok (some (row, t')) => { reply := row.decode, tables := t' }
  | .load id => answer t (decode? (t.row? id.render))
  | .find url => answer t (decode? (t.rowAt? url))
  | .delete id =>
    match t.delete traps id with
    | .error why => refuse b t .closed why
    | .ok (found, t') => { reply := .ok found, tables := t' }
  | .list kind =>
    answer t (decodeAll (t.sorted.filter fun r => kind.all fun k => r.kind = k.name))
  | .link identity cluster =>
    match t.link traps now identity cluster with
    | .error .dangling =>
      refuse b t (.notFound .cluster cluster.render) .dangling
    | .error why => refuse b t (.alreadyExists .link (linkKey identity cluster)) why
    | .ok (l, t') => { reply := .ok l, tables := t' }
  | .loadLink identity cluster => answer t (.ok (t.link? identity cluster))
  | .unlink identity url =>
    match t.unlink traps identity url with
    | .error why => refuse b t .closed why
    | .ok (n, t') => { reply := .ok n, tables := t' }
  | .links identity => answer t (.ok (t.linksOf identity))
  | .clustersOf identity => answer t (decodeAll (t.rowsOf identity))

def perform (b : Backend) (traps : List Trap) (now : Nat) (t : Tables) (c : Call α) : Effect α :=
  if c.writes && !b.writable then
    { reply := .error (.database b.unwritable), tables := t, refused := true }
  else run b traps now t c

end Call

end Fleet.Store
