/-
  Fleet/Proofs/Context/Undisturbed.lean
  =====================================
  **Work that nothing interferes with.**

  Where no trap is set, the tables may be changed and the deadline does not pass, what an execution
  comes to is decided by its work alone.  The scene is calm then (`Scene.IsCalm`), and it stays calm
  with every call that is answered.  Work that is done there is committed, and the error of work that
  fails is the answer of the execution (`Registry.execute_of_ends`).
-/
import Fleet.Proofs.Context.Continuity
import Fleet.Proofs.Service.Placement

namespace Fleet

open Fleet.Store Fleet.Work

/-! ### Calm scenes -/

namespace Work

variable {σ α : Type} {s : Scene σ}

/-- A transaction in which nothing has gone wrong, on tables that may be changed, without traps. -/
structure Scene.IsCalm (s : Scene σ) : Prop where
  isLive : s.IsLive
  doomed : s.txn.doomed = false
  cancelled : s.cancelled = false
  writable : s.registry.database.backend.writable = true
  traps : s.registry.database.traps = []

/-- Work has ended with this answer, and if it was done it has left this view to be committed. -/
inductive Ends (view : Tables) : Except Error α → Outcome α × Scene σ → Prop where
  | done {a : α} {s : Scene σ} :
      s.IsLive → s.txn.doomed = false → s.txn.view = view → Ends view (.ok a) (.done a, s)
  | failed {e : Error} {s : Scene σ} : s.cancelled = false → Ends view (.error e) (.failed e, s)

namespace Scene.IsCalm

theorem draw (h : s.IsCalm) : s.draw.2.IsCalm := ⟨h.isLive, h.doomed, h.cancelled, h.writable, h.traps⟩

theorem tick (h : s.IsCalm) : (Sync.tick s).IsCalm :=
  ⟨h.isLive, h.doomed, h.cancelled, h.writable, h.traps⟩

theorem call (h : s.IsCalm) (c : Call α) : s.call c = ((s.attempt c).reply, s.afterCall c) := by
  rcases s.call_cases c with ⟨-, hcall⟩ | ⟨hn, -⟩
  · exact hcall
  · exact absurd h.isLive hn

theorem afterCall (h : s.IsCalm) {c : Call α} {a : α} (hreply : (s.attempt c).reply = .ok a) :
    (s.afterCall c).IsCalm where
  isLive := h.isLive.afterCall hreply
  doomed := by
    have hdooms : (s.attempt c).dooms = false := by
      rw [Scene.attempt, h.traps]
      exact Call.dooms_perform c
    rw [Scene.afterCall, hdooms, Bool.or_false]
    exact h.doomed
  cancelled := h.cancelled
  writable := h.writable
  traps := h.traps

/-- A call that reads leaves everything but the clock as it was. -/
theorem call_of_reads (h : s.IsCalm) {c : Call α} (hc : c.writes = false) :
    s.call c = ((s.attempt c).reply, Sync.tick s) := by
  have hanswer : s.attempt c = Call.answer s.txn.view (s.attempt c).reply := by
    rw [Scene.attempt, Call.perform_eq_run h.writable]
    cases c <;> first | rfl | cases hc
  have hafter : s.afterCall c = Sync.tick s := by
    rw [Scene.afterCall, hanswer]
    simp [Sync.tick, Call.answer, ← h.isLive.2]
  rw [h.call, hafter]

/-- Work that is done once a call is answered. -/
theorem ends_of_call (h : s.IsCalm) {c : Call β} {next : Except Error β → Work σ α} {b : β} {a : α}
    (hreply : (s.attempt c).reply = .ok b) (hnext : next (.ok b) = .done a) :
    Ends (c.effect s.time s.txn.view) (.ok a) ((Work.call c next).run s) := by
  have hafter := h.afterCall hreply
  simp only [run, h.call, hreply, hnext]
  exact .done hafter.isLive hafter.doomed (Scene.view_afterCall hreply)

/-- Work that fails when a call is answered like this. -/
theorem ends_of_call_failed (h : s.IsCalm) {c : Call β} {next : Except Error β → Work σ α} {b : β}
    {e : Error} (view : Tables) (hreply : (s.attempt c).reply = .ok b)
    (hnext : next (.ok b) = .fail e) : Ends view (.error e) ((Work.call c next).run s) := by
  simp only [run, h.call, hreply, hnext]
  exact .failed h.cancelled

/-- Work that fails when a call fails like this. -/
theorem ends_of_call_error (h : s.IsCalm) {c : Call β} {next : Except Error β → Work σ α}
    {e e' : Error} (view : Tables) (hreply : (s.attempt c).reply = .error e)
    (hnext : next (.error e) = .fail e') : Ends view (.error e') ((Work.call c next).run s) := by
  simp only [run, h.call, hreply, hnext]
  exact .failed h.cancelled

end Scene.IsCalm

end Work

/-! ### Calm registries -/

/-- A registry in which nothing interferes with an execution. -/
structure Registry.IsCalm (r : Registry) : Prop where
  writable : r.database.backend.writable = true
  traps : r.database.traps = []

namespace Registry

variable {α : Type} {r : Registry} {terms : Terms} {w : Work Unit α}

theorem isCalm_create {b : Backend} (hr : r.database = .create b) (hb : b.writable = true) :
    r.IsCalm := by
  constructor
  · rw [hr]
    exact hb
  · rw [hr]
    rfl

theorem IsCalm.continues {r' : Registry} (h : r.IsCalm) (hr' : r.Continues r') : r'.IsCalm where
  writable := hr'.backend.symm ▸ h.writable
  traps := hr'.traps.trans h.traps

/-- Where nothing interferes, a transaction begins. -/
theorem IsCalm.exists_start (h : r.IsCalm) (terms : Terms) :
    ∃ s : Scene Unit, Context.start? terms r () = some s ∧ s.IsCalm := by
  cases hs : Context.start? terms r () with
  | none =>
    have htraps := Context.start?_eq_none_iff.1 hs
    rw [h.traps] at htraps
    exact absurd rfl htraps
  | some s =>
    have hstart := Context.starts hs
    refine ⟨s, rfl, ?_⟩
    exact {
      isLive := hstart.isLive
      doomed := hstart.doomed
      cancelled := hstart.isTimely.marked.symm.trans (Bool.or_eq_false_iff.1 hstart.isLive.1).1
      writable := hstart.backend ▸ h.writable
      traps := hstart.traps.trans h.traps }

/-- **An execution answers what its work has ended with**, and commits what it has left. -/
theorem execute_of_ends {s : Scene Unit} {view : Tables} {answer : Except Error α}
    (hs : Context.start? terms r () = some s) (hend : Ends view answer (w.run s)) :
    (r.execute terms w).1 = answer ∧
      (r.execute terms w).2.database.tables = if answer.isOk then view else r.database.tables := by
  generalize hrun : w.run s = x at hend
  cases hend with
  | done hlive hdoomed hview =>
    obtain ⟨hdone, htables⟩ := Context.execute_of_run_done hs hrun hlive hdoomed
    exact ⟨answer_eq_ok.2 hdone, htables.trans hview⟩
  | @failed e s' hcancelled =>
    have hfailed : (Context.execute terms w r () .idle).outcome = .failed e := by
      rw [Context.execute_of_start hs, hrun]
      simp [Context.settle, hcancelled]
    constructor
    · exact congrArg answer hfailed
    · apply Context.tables_of_not_done
      intro a ha
      rw [hfailed] at ha
      cases ha

end Registry

end Fleet
