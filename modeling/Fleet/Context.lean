/-
  Fleet/Context.lean
  ==================
  **Contexts, and running a unit of work in exactly one transaction.**

  A context is idle or in a transaction.  Work that is executed on an idle context gets a
  transaction of its own: it is committed when the work succeeds and rolled back when it fails,
  breaks down or takes too long.  Work that is executed on a context in a transaction joins
  it, and what becomes of the transaction is left to whoever opened it.

  Once the transaction has ended the context is idle again.  A context that was kept stays in
  the transaction, which is closed.
-/
import Fleet.Text.Quoted
import Fleet.Work

namespace Fleet

open Fleet.Text Fleet.Store

inductive Context where
  | idle
  | inTransaction (txn : Txn) (cancelled : Bool)

namespace Context

/-- The name of the state in diagnostics. -/
def stateLabel (active : Bool) : String := if active then "InTransaction" else "Idle"

def isActive : Context → Bool
  | idle => false
  | inTransaction _ _ => true

/-- The cancellation of the transaction, if there is one. -/
def cancelled? : Context → Option Bool
  | idle => none
  | inTransaction _ c => some c

/-- A context over a database as diagnostics show it. -/
def debug (backend : Backend) (terms : Terms) (active : Bool) : String :=
  "ServiceContext \x7b " ++ Cluster.showFields [
    ("backend", Quoted.encode backend.name),
    ("settings", "TransactionSettings \x7b " ++ Cluster.showFields [
      ("timeout", terms.timeout.render),
      ("isolation_level", terms.isolation.label)] ++ " \x7d"),
    ("state", stateLabel active)] ++ " \x7d"

end Context

structure Executed (σ α : Type) where
  outcome : Outcome α
  context : Context
  registry : Registry
  scratch : σ
  /-- The context that the work kept. -/
  kept : Option Context

namespace Context

/-- Ends the transaction of work that has run, and gives the outcome of the execution. -/
def settle (terms : Terms) (outcome : Outcome α) (s : Work.Scene σ) :
    Outcome α × Database × Txn :=
  let db := s.registry.database
  if s.cancelled then (.failed (.timedOut terms.timeout), db, s.txn)
  else
    match outcome with
    | .done a =>
      match s.txn.commit db with
      | (.ok (), db, txn) => (.done a, db, txn)
      | (.error e, db, txn) => (.failed e, db, txn)
    | .failed e => (.failed e, (s.txn.rollback db).2)
    | .brokenDown b => (.failed (.panicked b.message), (s.txn.rollback db).2)

def execute (terms : Terms) (w : Work σ α) (r : Registry) (scratch : σ) : Context → Executed σ α
  | .inTransaction txn cancelled =>
    let (outcome, s) := w.run { registry := r, txn, cancelled, scratch, kept := false }
    let context := .inTransaction s.txn s.cancelled
    { outcome, context, registry := s.registry, scratch := s.scratch
      kept := if s.kept then some context else none }
  | .idle =>
    match Txn.begin r.database terms.isolation with
    | (.error e, db) =>
      { outcome := .failed e, context := .idle, registry := { r with database := db }, scratch
        kept := none }
    | (.ok txn, db) =>
      let (outcome, s) := w.run
        { registry := { r with database := db }, txn, cancelled := false, scratch, kept := false }
      let (outcome, db, txn) := settle terms outcome s
      { outcome, context := .idle, registry := { s.registry with database := db }
        scratch := s.scratch, kept := if s.kept then some (.inTransaction txn true) else none }

end Context

namespace Registry

/-- The answer of an execution on an idle context. -/
def answer : Outcome α → Except Error α
  | .done a => .ok a
  | .failed e => .error e
  | .brokenDown b => .error (.panicked b.message)

/-- Runs a unit of work in a transaction of its own. -/
def execute (r : Registry) (terms : Terms) (w : Work Unit α) : Except Error α × Registry :=
  let e := Context.execute terms w r () .idle
  (answer e.outcome, e.registry)

/-- A call on the store as a transaction of its own. -/
def call (r : Registry) (c : Call α) : Except Error α × Registry :=
  let (reply, db) := r.database.call c
  (reply, { r with database := db })

end Registry

end Fleet
