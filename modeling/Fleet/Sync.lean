/-
  Fleet/Sync.lean
  ===============
  **Making the registry agree with a snapshot.**

  The definitions of a snapshot are taken in the order of their URLs.  Where a cluster has the
  URL it is overwritten and keeps its identifier; elsewhere a cluster is created with a fresh
  one.  A definition without a token provider leaves the one that is there; if there is none
  either, the identifier of the cluster stands in.

  The first definition that fails ends the sync, and its error says which one it was.
-/
import Fleet.Config.Snapshot
import Fleet.Context

namespace Fleet

open Fleet.Store

/-- How many clusters a sync created and overwrote. -/
structure SyncReport where
  created : Nat
  updated : Nat
deriving DecidableEq, Repr

/-- The first text that is not empty, or else the last one. -/
def firstGiven (a b : String) : String := if a.isEmpty then b else a

namespace Sync

/-- Writes one definition, and tells whether it created a cluster. -/
def upsert (d : Definition) : Work σ Bool := do
  match ← Work.ask (.find d.url) with
  | some c =>
    let provider := firstGiven d.tokenProvider (firstGiven c.tokenProvider c.id.render)
    let _ ← Work.ask (.save (d.withId c.id provider))
    return false
  | none =>
    let id ← Work.fresh
    let _ ← Work.ask (.create (d.withId id (firstGiven d.tokenProvider id.render)))
    return true

/-- What is being done when a definition is written. -/
def describe (d : Definition) : String := "sync cluster '" ++ d.name ++ "' (" ++ d.url ++ ")"

/-- Writes definitions one after another, on top of what a report counts. -/
def writeAll (report : SyncReport) : List Definition → Work σ SyncReport
  | [] => .done report
  | d :: ds => do
    if ← (upsert d).within (describe d) then
      writeAll { report with created := report.created + 1 } ds
    else writeAll { report with updated := report.updated + 1 } ds

/-- Writes every definition of a snapshot. -/
def work (s : Snapshot) : Work σ SyncReport := writeAll ⟨0, 0⟩ s.definitions

end Sync

/-- Makes the registry agree with a snapshot, in one transaction. -/
def Registry.sync (r : Registry) (terms : Terms) (s : Snapshot) : Except Error SyncReport × Registry :=
  r.execute terms (Sync.work s)

end Fleet
