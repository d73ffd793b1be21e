/-
  Fleet/Store/Database.lean
  =========================
  **Databases, and the transactions on them.**

  A database has the tables that are committed, a clock, and a record of the transaction
  control it has received.  A call is made directly, as a transaction of its own, or on an
  open transaction, which works on a view of the tables that nobody else sees.

  A transaction ends once, by a commit or by a rollback.  It can be marked as closed before
  that: then it only takes the rollback.  Whatever is asked of a closed transaction, the answer
  is that it is closed.  A commit makes the view the committed tables, with two exceptions: a
  transaction that holds a doomed row cannot be committed, and the commit of one that has been
  aborted by a failed statement goes through without keeping anything.
-/
import Fleet.Store.Call

namespace Fleet.Store

structure Database where
  backend : Backend
  /-- What is committed. -/
  tables : Tables
  clock : Nat
  /-- The traps that are set, the latest one first. -/
  traps : List Trap
  /-- The transaction control received, in order. -/
  received : List String

namespace Database

/-- What opening an empty database sends: each of the two tables is made in a transaction. -/
def migrations : List String := ["BEGIN", "COMMIT", "BEGIN", "COMMIT"]

def create (b : Backend) : Database := ⟨b, Tables.empty, 0, [], migrations⟩

def receive (db : Database) (statements : List String) : Database :=
  { db with received := db.received ++ statements }

def setTrap (db : Database) (t : Trap) : Database := { db with traps := t :: db.traps }

/-- A call as a transaction of its own. -/
def call (db : Database) (c : Call α) : Except Error α × Database :=
  let now := db.clock + 1
  let e := c.perform db.backend db.traps now db.tables
  (e.reply, { db with clock := now, tables := if e.dooms then db.tables else e.tables })

end Database

/-! ### Files -/

/-- What is found in the place of a database file. -/
inductive Medium where
  | absent
  | empty
  | holding (db : Database)
  /-- Something else than a database. -/
  | foreign

def Medium.isAbsent : Medium → Bool
  | absent => true
  | _ => false

/-! ### Transactions -/

/-- How a transaction fares at the database. -/
inductive Condition where
  | running
  /-- A statement has failed, and nothing more is taken. -/
  | aborted
  | lost
deriving DecidableEq, Repr

structure Txn where
  /-- The tables as the transaction sees them. -/
  view : Tables
  began : Nat
  condition : Condition := .running
  /-- It cannot be committed any more. -/
  doomed : Bool := false
  marked : Bool := false
  /-- It has been committed or rolled back. -/
  ended : Bool := false

namespace Txn

/-- Whether the transaction takes no more calls. -/
def isClosed (x : Txn) : Bool := x.marked || x.ended

def abortedText : String :=
  "current transaction is aborted, commands ignored until end of transaction block"

def begin (db : Database) (level : Isolation) : Except Error Txn × Database :=
  match db.traps.find? (·.point = .start) with
  | some t => (.error (.database (db.backend.trapped t.message)), db)
  | none =>
    let now := db.clock + 1
    let levels := if db.backend.hasLevels then level.sql?.toList else []
    (.ok { view := db.tables, began := now },
      { db with clock := now }.receive
        ("BEGIN" :: levels.map ("SET TRANSACTION ISOLATION LEVEL " ++ ·)))

/-- A call on an open transaction whose connection holds. -/
def perform (db : Database) (x : Txn) (c : Call α) : Except Error α × Database × Txn :=
  let now := db.clock + 1
  let e := c.perform db.backend db.traps (if db.backend.clockStands then x.began else now) x.view
  (e.reply, { db with clock := now },
    { x with
      view := e.tables
      doomed := x.doomed || e.dooms
      condition := if e.refused && db.backend.abortsOnFailure then .aborted else .running })

def call (db : Database) (x : Txn) (c : Call α) : Except Error α × Database × Txn :=
  if x.isClosed then (.error .closed, db, x)
  else
    match x.condition with
    | .lost => (.error (.database .disconnected), db, x)
    | .aborted => (.error (.database (db.backend.refusal 25 abortedText)), db, x)
    | .running => perform db x c

def commit (db : Database) (x : Txn) : Except Error Unit × Database × Txn :=
  if x.isClosed then (.error .closed, db, x)
  else
    let x' := { x with ended := true }
    match x.condition with
    | .lost => (.error (.commitFailed .disconnected), db, x')
    | .aborted => (.ok (), db.receive ["COMMIT"], x')
    | .running =>
      if x.doomed then
        (.error (.commitFailed (db.backend.refusal 787 "FOREIGN KEY constraint failed")),
          db.receive ["COMMIT"], x')
      else (.ok (), { db with tables := x.view }.receive ["COMMIT"], x')

def rollback (db : Database) (x : Txn) : Except Error Unit × Database × Txn :=
  if x.ended then (.error .closed, db, x)
  else
    let x' := { x with ended := true }
    match x.condition with
    | .lost => (.error (.database .disconnected), db, x')
    | .aborted | .running => (.ok (), db.receive ["ROLLBACK"], x')

/-- Marks the transaction as closed: it only takes the rollback now. -/
def markClosed (x : Txn) : Txn := { x with marked := true }

def sever (x : Txn) : Txn := { x with condition := .lost }

/-- Lets go of the transaction, which rolls it back if it has not ended. -/
def release (db : Database) (x : Txn) : Database := (rollback db x).2.1

end Txn

end Fleet.Store
