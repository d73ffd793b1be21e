/-
  Fleet/Work.lean
  ===============
  **Units of work.**

  A unit of work is what runs in one transaction.  It makes calls on the store and goes on
  with their answers, errors included; it may run other work inside itself, which joins the
  same transaction; it may succeed, fail or break down.  It can wait until it is cancelled,
  keep its context for later, and use a scratch value which outlives it however it ends.

  `Work.run` says what a unit of work does to a transaction.  Waiting for the cancellation of
  a transaction that is still open means that the deadline passes: the transaction is closed
  and rolled back at that moment, and the rest of the work runs on in vain.
-/
import Fleet.Duration
import Fleet.Store.Database

namespace Fleet

open Fleet.Store

/-- What a unit of work leaves behind when it breaks down. -/
inductive Breakdown where
  | text (message : String)
  /-- Something that is no text. -/
  | other
deriving DecidableEq, Repr

def Breakdown.message : Breakdown → String
  | text m => m
  | other => "non-string panic payload"

/-- The terms under which transactions are opened. -/
structure Terms where
  timeout : Duration
  isolation : Isolation
deriving DecidableEq, Repr

/-- The registry as units of work find it: its database, and a source of fresh identifiers. -/
structure Registry where
  database : Database
  /-- The identifiers that will be handed out, in order. -/
  ids : Nat → Uuid
  /-- How many have been handed out. -/
  drawn : Nat

/-- A unit of work with a scratch value of type `σ`, by the type of its result. -/
inductive Work (σ : Type) : Type → Type 1 where
  | done (a : α) : Work σ α
  | fail (e : Error) : Work σ α
  | breakDown (b : Breakdown) : Work σ α
  | call (c : Call β) (next : Except Error β → Work σ α) : Work σ α
  /-- Work inside the work. -/
  | nest (body : Work σ β) (next : Except Error β → Work σ α) : Work σ α
  | draw (next : Uuid → Work σ α) : Work σ α
  /-- Asks whether the work has been cancelled. -/
  | askCancelled (next : Bool → Work σ α) : Work σ α
  | awaitCancel (next : Work σ α) : Work σ α
  | read (next : σ → Work σ α) : Work σ α
  | write (s : σ) (next : Work σ α) : Work σ α
  | keep (next : Work σ α) : Work σ α
  /-- Has the connection to the database cut. -/
  | sever (next : Work σ α) : Work σ α

inductive Outcome (α : Type) where
  | done (a : α)
  | failed (e : Error)
  | brokenDown (b : Breakdown)

namespace Work

/-! ### Composition -/

protected def bind : Work σ α → (α → Work σ β) → Work σ β
  | done a, f => f a
  | fail e, _ => fail e
  | breakDown b, _ => breakDown b
  | call c next, f => call c fun r => (next r).bind f
  | nest body next, f => nest body fun r => (next r).bind f
  | draw next, f => draw fun u => (next u).bind f
  | askCancelled next, f => askCancelled fun b => (next b).bind f
  | awaitCancel next, f => awaitCancel (next.bind f)
  | read next, f => read fun s => (next s).bind f
  | write s next, f => write s (next.bind f)
  | keep next, f => keep (next.bind f)
  | sever next, f => sever (next.bind f)

instance : Monad (Work σ) where
  pure := done
  bind := Work.bind

/-- The result, or the error as a failure. -/
def ofExcept : Except Error α → Work σ α
  | .ok a => done a
  | .error e => fail e

/-- A call whose failure is the failure of the work. -/
def ask (c : Call α) : Work σ α := call c ofExcept

/-- Work inside the work whose failure is the failure of the work. -/
def joined (w : Work σ α) : Work σ α := nest w ofExcept

def fresh : Work σ Uuid := draw done

/-- The work with a context put around its failure. -/
def within (context : String) : Work σ α → Work σ α
  | done a => done a
  | fail e => fail (.within context e)
  | breakDown b => breakDown b
  | call c next => call c fun r => (next r).within context
  | nest body next => nest body fun r => (next r).within context
  | draw next => draw fun u => (next u).within context
  | askCancelled next => askCancelled fun b => (next b).within context
  | awaitCancel next => awaitCancel (next.within context)
  | read next => read fun s => (next s).within context
  | write s next => write s (next.within context)
  | keep next => keep (next.within context)
  | sever next => sever (next.within context)

/-! ### Running -/

structure Scene (σ : Type) where
  registry : Registry
  txn : Txn
  cancelled : Bool
  scratch : σ
  kept : Bool

namespace Scene

def call (s : Scene σ) (c : Call α) : Except Error α × Scene σ :=
  let (reply, db, txn) := s.txn.call s.registry.database c
  (reply, { s with registry := { s.registry with database := db }, txn })

def draw (s : Scene σ) : Uuid × Scene σ :=
  (s.registry.ids s.registry.drawn,
    { s with registry := { s.registry with drawn := s.registry.drawn + 1 } })

/-- The deadline passes, unless the work has been cancelled before: the transaction is closed
    and rolled back. -/
def expire (s : Scene σ) : Scene σ :=
  if s.cancelled then s
  else
    let (_, db, txn) := s.txn.markClosed.rollback s.registry.database
    { s with registry := { s.registry with database := db }, txn, cancelled := true }

end Scene

def run : Work σ α → Scene σ → Outcome α × Scene σ
  | done a, s => (.done a, s)
  | fail e, s => (.failed e, s)
  | breakDown b, s => (.brokenDown b, s)
  | call c next, s =>
    let (reply, s) := s.call c
    (next reply).run s
  | nest body next, s =>
    match body.run s with
    | (.done b, s) => (next (.ok b)).run s
    | (.failed e, s) => (next (.error e)).run s
    | (.brokenDown b, s) => (.brokenDown b, s)
  | draw next, s =>
    let (u, s) := s.draw
    (next u).run s
  | askCancelled next, s => (next s.cancelled).run s
  | awaitCancel next, s => next.run s.expire
  | read next, s => (next s.scratch).run s
  | write x next, s => next.run { s with scratch := x }
  | keep next, s => next.run { s with kept := true }
  | sever next, s => next.run { s with txn := s.txn.sever }

end Work

end Fleet
