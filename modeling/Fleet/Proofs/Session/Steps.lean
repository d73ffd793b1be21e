/-
  Fleet/Proofs/Session/Steps.lean
  ===============================
  **Sessions.**

  A session is everything that may go on at a registry.  Calls are made, requests are served,
  snapshots are synced, transactions are opened, used and ended, and work is executed, all of
  this one after another and in any order.  A session has the transactions that were opened in
  it, and the contexts that work has kept.  Work that is left behind at its deadline goes on, and
  its context is one of those.

  Whatever every call keeps of the tables it runs on holds of all tables in a session, the views
  of transactions included, and a context that is left over from an execution is in a transaction
  that is closed (`Reached.upholds`).
-/
import Fleet.Proofs.Context.CallTree
import Fleet.Proofs.Service.Requests
import Fleet.Proofs.Store.Links

namespace Fleet

open Fleet.Store Fleet.Work

/-! ### Transactions in use -/

/-- What can be done with a transaction that is open at a database. -/
inductive Store.Txn.Use (db : Database) (x : Txn) : Database → Txn → Prop where
  | call (c : Call α) : Use db x (x.call db c).2.1 (x.call db c).2.2
  | finish (e : Ending) : Use db x (e.attempt db x).2.1 (e.attempt db x).2.2
  | mark : Use db x db x.markClosed
  | sever : Use db x db x.sever

/-! ### Sessions -/

structure Session where
  registry : Registry
  /-- The transactions that have been opened, those that have ended included. -/
  transactions : List Txn
  /-- The contexts that are left over from executions. -/
  contexts : List Context

namespace Session

def setDatabase (s : Session) (db : Database) : Session :=
  { s with registry := { s.registry with database := db } }

/-- The session after work on a context that is left over, `before` and `after` being the others. -/
def resume (s : Session) (before after : List Context) (k : Context) (terms : Terms)
    (w : Work σ α) (x : σ) : Session :=
  let e := Context.execute terms w s.registry x k
  { s with
    registry := e.registry
    contexts := before ++ e.context :: after ++ e.kept.toList }

inductive Step (s : Session) : Session → Prop where
  | call (c : Call α) : Step s { s with registry := (s.registry.call c).2 }
  | request (service : Service) (who : Caller) (q : Request α) :
      Step s { s with registry := (service.serve who q s.registry).2 }
  | sync (terms : Terms) (snapshot : Snapshot) :
      Step s { s with registry := (s.registry.sync terms snapshot).2 }
  | execute (terms : Terms) (w : Work σ α) (x : σ) :
      Step s { s with
        registry := (Context.execute terms w s.registry x .idle).registry
        contexts := s.contexts ++ (Context.execute terms w s.registry x .idle).kept.toList }
  /-- Work is late, and is left behind wherever it has got to. -/
  | leave (terms : Terms) (w : Work σ α) (x : σ) (ev : Event σ) :
      ev ∈ Context.history terms w s.registry x → ev.scene.cancelled = true →
      Step s { s with
        registry := ev.scene.registry
        contexts := s.contexts ++ [.inTransaction ev.scene.txn true] }
  /-- Work is executed on a context that is left over. -/
  | resume (before after : List Context) {k : Context} (terms : Terms) (w : Work σ α) (x : σ) :
      s.contexts = before ++ k :: after → Step s (s.resume before after k terms w x)
  | begin (level : Isolation) {x : Txn} {db : Database} :
      Txn.begin s.registry.database level = (.ok x, db) →
      Step s { s.setDatabase db with transactions := s.transactions ++ [x] }
  | use (before after : List Txn) {x x' : Txn} {db : Database} :
      s.transactions = before ++ x :: after → x.Use s.registry.database db x' →
      Step s { s.setDatabase db with transactions := before ++ x' :: after }
  | trap (t : Trap) : Step s (s.setDatabase (s.registry.database.setTrap t))

inductive Reached (r : Registry) : Session → Prop where
  | start : Reached r ⟨r, [], []⟩
  | step {s s' : Session} : Reached r s → Session.Step s s' → Reached r s'

end Session

/-! ### What an execution leaves over -/

section

variable {P : Tables → Prop}
  (hP : ∀ {β : Type} (c : Call β) b traps now t, P t → P (c.perform b traps now t).tables)

/-- A context that is left over from an execution: its transaction is closed. -/
def Context.IsLeft (P : Tables → Prop) (k : Context) : Prop :=
  ∃ x : Txn, k = .inTransaction x true ∧ x.isClosed = true ∧ P x.view

/-- What an execution makes of a registry, and the contexts that are left over from it. -/
structure Context.Leaves (P : Tables → Prop) (r r' : Registry) (left : List Context) : Prop where
  backend : r'.database.backend = r.database.backend
  committed : P r'.database.tables
  contexts : ∀ k ∈ left, k.IsLeft P

include hP

theorem Work.Path.keeps_view {σ : Type} {s s' : Scene σ} {es : List (Event σ)} (h : Path s es s')
    (hs : P s.txn.view) : P s'.txn.view ∧ ∀ ev ∈ es, P ev.scene.txn.view := by
  apply h.keeps (P := fun s => P s.txn.view) _ hs
  intro t act t' hstep ht
  exact hstep.keeps_view hP ht

theorem Store.Txn.Use.keeps {db db' : Database} {x x' : Txn} (h : x.Use db db' x')
    (hdb : P db.tables) (hx : P x.view) :
    db'.backend = db.backend ∧ P db'.tables ∧ P x'.view := by
  cases h with
  | call c =>
    unfold Txn.call
    split
    · exact ⟨rfl, hdb, hx⟩
    · split
      · exact ⟨rfl, hdb, hx⟩
      · exact ⟨rfl, hdb, hx⟩
      · exact ⟨rfl, hdb, hP c _ _ _ _ hx⟩
  | finish e =>
    have h : Ending.Closes db x (e.attempt db x).2 := e.closes
    refine ⟨h.backend, ?_, h.view ▸ hx⟩
    rcases h.tables with ht | ht
    · exact ht ▸ hdb
    · exact ht ▸ hx
  | mark => exact ⟨rfl, hdb, hx⟩
  | sever => exact ⟨rfl, hdb, hx⟩

namespace Context

variable {σ α : Type} {terms : Terms} {w : Work σ α} {r : Registry} {x : σ}

theorem execute_leaves (h : P r.database.tables) :
    Leaves P r (execute terms w r x .idle).registry (execute terms w r x .idle).kept.toList := by
  cases hs : start? terms r x with
  | none =>
    obtain ⟨e, -, he⟩ := execute_of_not_start (w := w) hs
    rw [he]
    exact ⟨rfl, h, by simp⟩
  | some s =>
    have hpath := run_path w s
    have hsettle := settle_closes terms (w.run s).1 (hpath.isTimely (starts hs).isTimely)
    have hbackend := hsettle.backend.trans (hpath.backend.trans (starts hs).backend)
    have hcommitted : P (execute terms w r x .idle).registry.database.tables := tables_keep hP h
    rw [execute_of_start hs] at hcommitted ⊢
    refine ⟨hbackend, hcommitted, ?_⟩
    intro k hk
    rw [Option.mem_toList] at hk
    dsimp only at hk
    split at hk
    · refine ⟨_, (Option.some.inj hk).symm, hsettle.closed, ?_⟩
      rw [hsettle.view]
      exact (hpath.keeps_view hP ((starts hs).view ▸ h)).1
    · cases hk

/-- Work may be left behind once its deadline has passed. -/
theorem leave_leaves {ev : Event σ} (hev : ev ∈ history terms w r x)
    (hc : ev.scene.cancelled = true) (h : P r.database.tables) :
    Leaves P r ev.scene.registry [.inTransaction ev.scene.txn true] := by
  have htables := tables_of_mem_history hev
  cases hs : start? terms r x with
  | none => simp [history, hs] at hev
  | some s =>
    simp only [history, hs] at hev
    have hpath := run_path w s
    have htimely := hpath.keeps (P := Scene.IsTimely) (fun _ _ _ hstep => hstep.isTimely)
      (starts hs).isTimely
    refine ⟨(hpath.backends.2 ev hev).trans (starts hs).backend, htables ▸ h, ?_⟩
    rw [List.forall_mem_singleton]
    refine ⟨ev.scene.txn, rfl, (htimely.2 ev hev).isClosed.trans hc, ?_⟩
    exact (hpath.keeps_view hP ((starts hs).view ▸ h)).2 ev hev

/-- Work on a context that is left over does nothing to the database. -/
theorem resume_leaves {k : Context} (hk : k.IsLeft P) (h : P r.database.tables) :
    Leaves P r (execute terms w r x k).registry
      ((execute terms w r x k).context :: (execute terms w r x k).kept.toList) := by
  obtain ⟨txn, rfl, hclosed, hview⟩ := hk
  have hpath := run_path w ⟨r, txn, true, x, false⟩
  obtain ⟨hover, hdb, -⟩ := hpath.over ⟨rfl, hclosed⟩
  have hleft : (execute terms w r x (.inTransaction txn true)).context.IsLeft P :=
    ⟨_, by simp only [execute, hover.cancelled], hover.closed, (hpath.keeps_view hP hview).1⟩
  refine ⟨congrArg Database.backend hdb, ?_, ?_⟩
  · exact (congrArg Database.tables hdb).symm ▸ h
  · rw [List.forall_mem_cons]
    refine ⟨hleft, ?_⟩
    intro k' hk'
    rw [Option.mem_toList] at hk'
    simp only [execute] at hk'
    split at hk'
    · exact Option.some.inj hk' ▸ hleft
    · cases hk'

end Context

/-! ### What a session upholds -/

namespace Session

/-- What holds of all tables in a session, whose database is of a certain kind. -/
structure Upholds (P : Tables → Prop) (b : Backend) (s : Session) : Prop where
  backend : s.registry.database.backend = b
  committed : P s.registry.database.tables
  views : ∀ x ∈ s.transactions, P x.view
  contexts : ∀ k ∈ s.contexts, k.IsLeft P

variable {b : Backend} {s s' : Session}

omit hP in
theorem Upholds.leaves (hs : s.Upholds P b) {r : Registry} {left contexts : List Context}
    (h : Context.Leaves P s.registry r left)
    (hcontexts : ∀ k ∈ contexts, k ∈ s.contexts ∨ k ∈ left) :
    ({ s with registry := r, contexts } : Session).Upholds P b := by
  refine ⟨h.backend.trans hs.backend, h.committed, hs.views, ?_⟩
  intro k hk
  rcases hcontexts k hk with hk | hk
  · exact hs.contexts k hk
  · exact h.contexts k hk

theorem Step.upholds (h : Session.Step s s') (hs : s.Upholds P b) : s'.Upholds P b := by
  have hcall {β : Type} (c : Call β) : Context.Leaves P s.registry (s.registry.call c).2 [] :=
    ⟨rfl, Registry.tables_call_keep hP c hs.committed, by simp⟩
  -- requests and syncs execute work, too, but let go of its context
  have hexecute {β : Type} (terms : Terms) (w : Work Unit β) :
      Context.Leaves P s.registry (s.registry.execute terms w).2 [] := by
    have h : Context.Leaves P s.registry (Context.execute terms w s.registry () .idle).registry
        (Context.execute terms w s.registry () .idle).kept.toList :=
      Context.execute_leaves hP hs.committed
    exact ⟨h.backend, h.committed, by simp⟩
  cases h with
  | call c => exact hs.leaves (hcall c) fun _ => .inl
  | request service who q =>
    rcases service.serve_cases who q s.registry with h | ⟨w, -, h⟩ | ⟨β, c, -, h⟩
    · rw [h]
      exact hs
    · rw [h]
      exact hs.leaves (hexecute service.terms w) fun _ => .inl
    · rw [h]
      exact hs.leaves (hcall c) fun _ => .inl
  | sync terms snapshot => exact hs.leaves (hexecute terms _) fun _ => .inl
  | execute terms w x =>
    exact hs.leaves (Context.execute_leaves hP hs.committed) fun _ => List.mem_append.1
  | leave terms w x ev hev hc =>
    exact hs.leaves (Context.leave_leaves hP hev hc hs.committed) fun _ => List.mem_append.1
  | @resume _ _ before after k terms w x hcontexts =>
    have hk : k.IsLeft P := hs.contexts k (by simp [hcontexts])
    apply hs.leaves (Context.resume_leaves hP hk hs.committed)
    intro k' hk'
    simp only [hcontexts, List.mem_append, List.mem_cons] at hk' ⊢
    tauto
  | begin level h =>
    have hbegun := Txn.begun h
    refine ⟨hbegun.backend.trans hs.backend, hbegun.tables ▸ hs.committed, ?_, hs.contexts⟩
    rw [List.forall_mem_append, List.forall_mem_singleton, hbegun.view]
    exact ⟨hs.views, hs.committed⟩
  | use _ _ htransactions huse =>
    have hall := hs.views
    rw [htransactions, List.forall_mem_append, List.forall_mem_cons] at hall
    obtain ⟨hbefore, hx, hafter⟩ := hall
    obtain ⟨hbackend, hcommitted, hview⟩ := huse.keeps hP hs.committed hx
    refine ⟨hbackend.trans hs.backend, hcommitted, ?_, hs.contexts⟩
    rw [List.forall_mem_append, List.forall_mem_cons]
    exact ⟨hbefore, hview, hafter⟩
  | trap t => exact ⟨hs.backend, hs.committed, hs.views, hs.contexts⟩

/-- **What every call keeps, every session upholds.** -/
theorem Reached.upholds {r : Registry} (h : Reached r s) (hr : P r.database.tables) :
    s.Upholds P r.database.backend := by
  induction h with
  | start => exact ⟨rfl, hr, by simp, by simp⟩
  | step _ hstep ih => exact hstep.upholds hP ih

end Session

end

/-- In a session at a new database, all tables are as the registry leaves them. -/
theorem Session.Reached.tidy {r : Registry} {s : Session} {b : Backend} (h : Reached r s)
    (hr : r.database = .create b) : s.Upholds Tables.IsTidy r.database.backend :=
  h.upholds (fun c _ _ _ _ => Call.isTidy_perform c) (by rw [hr]; exact Tables.isTidy_empty)

end Fleet
