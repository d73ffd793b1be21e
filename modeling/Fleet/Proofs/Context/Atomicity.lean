/-
  Fleet/Proofs/Context/Atomicity.lean
  ===================================
  **Executions are atomic.**

  On a database that takes further statements after a failed one, an execution on an idle
  context either succeeds and commits exactly what the answered calls of its work did, or it
  does not succeed and commits nothing; and nothing that the work does later, in time or not,
  changes what is committed (`execute_atomic`).

  A database that aborts a transaction on failure accepts the commit of an aborted one without
  keeping anything.  There a success says less.  Everything that was answered is kept exactly if
  no statement was refused, or if the answered calls came to nothing anyway
  (`keeps_answered_iff`); otherwise the work succeeds and all of it is gone
  (`createTwice_keeps_nothing`).
-/
import Fleet.Proofs.Context.Execution

namespace Fleet.Context

open Fleet.Store Fleet.Work

variable {σ α : Type}

/-! ### All or nothing -/

/-- What it means that an execution on an idle context is atomic. -/
structure Atomic (terms : Terms) (w : Work σ α) (r : Registry) (x : σ) : Prop where
  /-- A success commits what the answered calls did, in their order. -/
  done : ∀ a, (execute terms w r x .idle).outcome = .done a →
    (execute terms w r x .idle).registry.database.tables =
      applyAll r.database.tables (history terms w r x)
  /-- Whatever else happens, nothing is committed. -/
  notDone : (∀ a, (execute terms w r x .idle).outcome ≠ .done a) →
    (execute terms w r x .idle).registry.database.tables = r.database.tables
  /-- Nothing is committed on the way, in time or after the deadline. -/
  running : ∀ ev ∈ history terms w r x, ev.scene.registry.database.tables = r.database.tables
  /-- Nothing that is done later in a context which the work kept is committed. -/
  afterwards : ∀ k, (execute terms w r x .idle).kept = some k →
    ∀ {τ β : Type} (terms' : Terms) (w' : Work τ β) (r' : Registry) (y : τ),
      (execute terms' w' r' y k).registry.database.tables = r'.database.tables

theorem kept_inTransaction {terms : Terms} {w : Work σ α} {r : Registry} {x : σ} {k : Context}
    (h : (execute terms w r x .idle).kept = some k) : ∃ txn, k = .inTransaction txn true := by
  cases hs : start? terms r x with
  | none =>
    obtain ⟨e, -, he⟩ := execute_of_not_start (w := w) hs
    rw [he] at h
    cases h
  | some s =>
    rw [execute_of_start hs] at h
    dsimp only at h
    split at h
    · exact ⟨_, (Option.some.inj h).symm⟩
    · cases h

/-- **Executions are atomic** on every database that takes further statements after a failed
    one. -/
theorem execute_atomic (terms : Terms) (w : Work σ α) (r : Registry) (x : σ)
    (hb : r.database.backend.abortsOnFailure = false) : Atomic terms w r x where
  done a h := by
    rw [tables_of_done h, hb, Bool.and_false]
    rfl
  notDone := tables_of_not_done
  running ev := tables_of_mem_history
  afterwards k hk τ β terms' w' r' y := by
    obtain ⟨txn, rfl⟩ := kept_inTransaction hk
    exact tables_of_inTransaction txn true

/-- Work that creates a cluster, lets the deadline pass and goes on in a context that it keeps. -/
def createLate (c : Cluster) : Work Unit Unit :=
  .keep (.call (.create c) fun _ => .awaitCancel (.call (.delete c.id) fun _ => .done ()))

theorem createLate_atomic :
    Backend.sqlite.abortsOnFailure = false ∧
      Atomic halfMinute (createLate (bare "https://a/")) (blank .sqlite) () :=
  ⟨rfl, execute_atomic halfMinute (createLate (bare "https://a/")) (blank .sqlite) () rfl⟩

/-! ### Databases that abort on failure -/

/-- **When a success keeps what was answered** on a database that aborts a transaction in which a
    statement fails: if none did, or if it makes no difference. -/
theorem keeps_answered_iff {terms : Terms} {w : Work σ α} {r : Registry} {x : σ} {a : α}
    (hb : r.database.backend.abortsOnFailure = true)
    (h : (execute terms w r x .idle).outcome = .done a) :
    (execute terms w r x .idle).registry.database.tables =
        applyAll r.database.tables (history terms w r x) ↔
      (∀ ev ∈ history terms w r x, ev.act.isRefused = false) ∨
        applyAll r.database.tables (history terms w r x) = r.database.tables := by
  rw [tables_of_done h, hb, Bool.and_true]
  cases hr : (history terms w r x).any (·.act.isRefused) with
  | false =>
    have hnone : ∀ ev ∈ history terms w r x, ev.act.isRefused = false := by
      simpa using hr
    simp only [Bool.false_eq_true, if_false, true_iff]
    exact .inl hnone
  | true =>
    obtain ⟨ev, hev, href⟩ := List.any_eq_true.1 hr
    simp only [if_true]
    constructor
    · exact fun he => .inr he.symm
    · rintro (hnone | he)
      · rw [hnone ev hev] at href
        cases href
      · exact he.symm

/-- Work that creates a cluster twice and does not mind that this fails. -/
def createTwice (c : Cluster) : Work Unit Unit :=
  .call (.create c) fun _ => .call (.create c) fun _ => .done ()

/-- The first creation is answered with the cluster and the work succeeds, but no cluster is
    there afterwards. -/
theorem createTwice_keeps_nothing :
    (execute halfMinute (createTwice (bare "https://a/")) (blank .postgres) () .idle).outcome =
        .done () ∧
      (∃ ev ∈ history halfMinute (createTwice (bare "https://a/")) (blank .postgres) (),
        ev.act = .call 1 (.create (bare "https://a/")) (.ok ⟨bare "https://a/", 1, 1⟩) false) ∧
      (execute halfMinute (createTwice (bare "https://a/")) (blank .postgres) ()
        .idle).registry.database.tables.rows = [] :=
  ⟨rfl, ⟨_, List.mem_cons_self, rfl⟩, by decide⟩

theorem createTwice_keeps_answered_iff :
    (execute halfMinute (createTwice (bare "https://a/")) (blank .postgres) ()
          .idle).registry.database.tables =
        applyAll Tables.empty
          (history halfMinute (createTwice (bare "https://a/")) (blank .postgres) ()) ↔
      (∀ ev ∈ history halfMinute (createTwice (bare "https://a/")) (blank .postgres) (),
        ev.act.isRefused = false) ∨
      applyAll Tables.empty
        (history halfMinute (createTwice (bare "https://a/")) (blank .postgres) ()) = Tables.empty :=
  keeps_answered_iff (r := blank .postgres) rfl rfl

end Fleet.Context
