/-
  Fleet/Proofs/Context/Execution.lean
  ===================================
  **How an execution begins and ends.**

  Executing work on an idle context is three things one after another: a transaction begins,
  the work runs in it, and it is settled by a commit or a rollback.  Each of them is described
  here once.

    * `Context.start?` is the scene in which the work starts; there is none when no transaction
      begins, and then nothing happens at all (`execute_of_not_start`).
    * `Context.settle_done` and `Context.settle_not_done` say what an execution needs to succeed
      and what is committed then.
    * `Context.tables_of_done` and `Context.tables_of_not_done` put them together with what
      `Work.Path` says about the run between them.
-/
import Fleet.Context
import Fleet.Proofs.Store.Keys
import Fleet.Proofs.Work.Transaction

namespace Fleet

open Fleet.Store

/-! ### The ends of a transaction -/

namespace Store.Txn

variable {db : Database} {x : Txn}

/-- A commit that goes through keeps the view, unless the transaction was aborted. -/
theorem tables_of_commit_ok (h : (x.commit db).1 = .ok ()) :
    x.condition ≠ .lost ∧
      (x.commit db).2.1.tables =
        if x.condition = .aborted then db.tables else x.view := by
  unfold commit at h ⊢
  split at h
  · cases h
  · rename_i hclosed
    rw [if_neg hclosed]
    cases hx : x.condition with
    | lost => simp [hx] at h
    | aborted => simp [Database.receive]
    | running =>
      simp only [hx] at h ⊢
      split at h
      · cases h
      · rename_i hdoomed
        rw [if_neg hdoomed]
        simp [Database.receive]

theorem commit_ok (hopen : x.isClosed = false) (hrun : x.condition = .running)
    (hdoomed : x.doomed = false) : (x.commit db).1 = .ok () := by
  simp [commit, hopen, hrun, hdoomed]

theorem tables_of_commit_error {e : Error} (h : (x.commit db).1 = .error e) :
    (x.commit db).2.1.tables = db.tables := by
  unfold commit at h ⊢
  split at h
  · rename_i hclosed
    rw [if_pos hclosed]
  · rename_i hclosed
    rw [if_neg hclosed]
    cases hx : x.condition with
    | lost => rfl
    | aborted => simp [hx] at h
    | running =>
      simp only [hx] at h ⊢
      split at h
      · rename_i hdoomed
        rw [if_pos hdoomed]
        rfl
      · cases h

@[simp] theorem tables_rollback : (x.rollback db).2.1.tables = db.tables := by
  unfold rollback
  split
  · rfl
  · cases x.condition <;> rfl

end Store.Txn

namespace Context

open Fleet.Work

variable {σ α : Type} {terms : Terms} {w : Work σ α} {r : Registry} {x : σ}

/-! ### The beginning -/

/-- The scene in which work that is executed on an idle context starts, if its transaction
    begins. -/
def start? (terms : Terms) (r : Registry) (x : σ) : Option (Scene σ) :=
  match Txn.begin r.database terms.isolation with
  | (.error _, _) => none
  | (.ok txn, db) =>
    some { registry := { r with database := db }, txn, cancelled := false, scratch := x, kept := false }

/-- What work does when it is executed on an idle context. -/
def history (terms : Terms) (w : Work σ α) (r : Registry) (x : σ) : List (Event σ) :=
  match start? terms r x with
  | none => []
  | some s => w.history s

/-- How work starts: on the committed tables, in a transaction in which nothing has happened. -/
structure Starts (r : Registry) (s : Scene σ) : Prop where
  tables : s.registry.database.tables = r.database.tables
  backend : s.registry.database.backend = r.database.backend
  traps : s.registry.database.traps = r.database.traps
  ids : s.registry.ids = r.ids
  drawn : s.registry.drawn = r.drawn
  view : s.txn.view = r.database.tables
  isLive : s.IsLive
  doomed : s.txn.doomed = false
  isTimely : s.IsTimely

theorem starts {s : Scene σ} (h : start? terms r x = some s) : Starts r s := by
  unfold start? Txn.begin at h
  cases hf : r.database.traps.find? (·.point = .start) with
  | some t => simp [hf] at h
  | none =>
    simp only [hf, Option.some.injEq] at h
    subst h
    exact ⟨rfl, rfl, rfl, rfl, rfl, rfl, ⟨rfl, rfl⟩, rfl, ⟨rfl, rfl⟩⟩

/-- Where no transaction begins, an execution fails and leaves everything as it was. -/
theorem execute_of_not_start (h : start? terms r x = none) :
    ∃ e, Txn.begin r.database terms.isolation = (.error e, r.database) ∧
      execute terms w r x .idle = {
        outcome := .failed e, context := .idle, registry := r, scratch := x, kept := none } := by
  unfold start? at h
  unfold execute
  cases hf : r.database.traps.find? (·.point = .start) with
  | none => simp [Txn.begin, hf] at h
  | some t =>
    refine ⟨.database (r.database.backend.trapped t.message), ?_, ?_⟩ <;> simp [Txn.begin, hf]

/-- Where one begins, the work runs from the start, and then the transaction is settled. -/
theorem execute_of_start {s : Scene σ} (h : start? terms r x = some s) :
    execute terms w r x .idle = {
      outcome := (settle terms (w.run s).1 (w.run s).2).1
      context := .idle
      registry := { (w.run s).2.registry with
        database := (settle terms (w.run s).1 (w.run s).2).2.1 }
      scratch := (w.run s).2.scratch
      kept :=
        if (w.run s).2.kept then
          some (.inTransaction (settle terms (w.run s).1 (w.run s).2).2.2 true)
        else none } := by
  unfold start? at h
  unfold execute
  rcases hb : Txn.begin r.database terms.isolation with ⟨reply, db⟩
  cases reply with
  | error e => simp [hb] at h
  | ok txn =>
    simp only [hb, Option.some.injEq] at h
    subst h
    rfl

/-! ### The end -/

/-- An execution succeeds only if its work does, in time, and the commit goes through. -/
theorem settle_done {o : Outcome α} {s : Scene σ} {a : α} (h : (settle terms o s).1 = .done a) :
    o = .done a ∧ s.cancelled = false ∧ (s.txn.commit s.registry.database).1 = .ok () ∧
      (settle terms o s).2 = (s.txn.commit s.registry.database).2 := by
  unfold settle at h ⊢
  cases hc : s.cancelled with
  | true => simp [hc] at h
  | false =>
    simp only [hc, Bool.false_eq_true, if_false] at h ⊢
    cases o with
    | failed e => cases h
    | brokenDown b => cases h
    | done b =>
      rcases hm : s.txn.commit s.registry.database with ⟨reply, db, txn⟩
      cases reply with
      | error e => simp [hm] at h
      | ok u =>
        simp only [hm] at h ⊢
        cases h
        simp

theorem settle_of_commit {s : Scene σ} {a : α} (hc : s.cancelled = false)
    (hcommit : (s.txn.commit s.registry.database).1 = .ok ()) :
    (settle terms (.done a) s).1 = .done a := by
  rcases hm : s.txn.commit s.registry.database with ⟨reply, db, txn⟩
  obtain rfl : reply = .ok () := by rw [← hcommit, hm]
  simp [settle, hc, hm]

/-- An execution that does not succeed has failed: it took too long, it cannot be committed, or
    its work did not succeed. -/
theorem settle_failed {o : Outcome α} {s : Scene σ} (h : ∀ a, (settle terms o s).1 ≠ .done a) :
    ∃ e, (settle terms o s).1 = .failed e ∧
      ((s.cancelled = true ∧ e = .timedOut terms.timeout) ∨
        (s.cancelled = false ∧
          ((∃ a, o = .done a ∧ (s.txn.commit s.registry.database).1 = .error e) ∨
            o = .failed e ∨ ∃ b, o = .brokenDown b ∧ e = .panicked b.message))) := by
  unfold settle at h ⊢
  cases hc : s.cancelled with
  | true => exact ⟨_, rfl, .inl ⟨rfl, rfl⟩⟩
  | false =>
    simp only [hc, Bool.false_eq_true, if_false] at h ⊢
    cases o with
    | failed e => exact ⟨e, rfl, .inr ⟨trivial, .inr (.inl rfl)⟩⟩
    | brokenDown b => exact ⟨_, rfl, .inr ⟨trivial, .inr (.inr ⟨b, rfl, rfl⟩)⟩⟩
    | done a =>
      rcases hm : s.txn.commit s.registry.database with ⟨reply, db, txn⟩
      cases reply with
      | ok u => simp [hm] at h
      | error e => exact ⟨e, by simp, .inr ⟨trivial, .inl ⟨a, rfl, by simp⟩⟩⟩

theorem settle_not_done {o : Outcome α} {s : Scene σ} (h : ∀ a, (settle terms o s).1 ≠ .done a) :
    (settle terms o s).2.1.tables = s.registry.database.tables := by
  unfold settle at h ⊢
  cases hc : s.cancelled with
  | true => simp
  | false =>
    simp only [hc, Bool.false_eq_true, if_false] at h ⊢
    cases o with
    | failed e => exact Txn.tables_rollback
    | brokenDown b => exact Txn.tables_rollback
    | done b =>
      rcases hm : s.txn.commit s.registry.database with ⟨reply, db, txn⟩
      cases reply with
      | ok u => simp [hm] at h
      | error e =>
        have := Txn.tables_of_commit_error (congrArg Prod.fst hm)
        simpa [hm] using this

/-! ### The whole -/

/-- **What a successful execution commits.**  It is what the answered calls of the work make of
    the committed tables, unless the database aborts on failure and has refused a statement:
    then it is nothing. -/
theorem tables_of_done {a : α} (h : (execute terms w r x .idle).outcome = .done a) :
    (execute terms w r x .idle).registry.database.tables =
      if (history terms w r x).any (·.act.isRefused) && r.database.backend.abortsOnFailure then
        r.database.tables
      else applyAll r.database.tables (history terms w r x) := by
  cases hs : start? terms r x with
  | none =>
    obtain ⟨e, -, he⟩ := execute_of_not_start (w := w) hs
    rw [he] at h
    cases h
  | some s =>
    rw [execute_of_start hs] at h ⊢
    simp only [history, hs]
    have hpath := run_path w s
    obtain ⟨-, -, hok, hsettle⟩ := settle_done h
    obtain ⟨hlost, htables⟩ := Txn.tables_of_commit_ok hok
    rw [hsettle, htables, hpath.view, hpath.committed.1, (starts hs).tables, (starts hs).view]
    rcases hpath.condition with hl | hc
    · exact absurd hl hlost
    · rw [hc, (starts hs).isLive.2, (starts hs).backend]
      split <;> simp

/-- **An execution that does not succeed leaves the committed tables as they were.** -/
theorem tables_of_not_done (h : ∀ a, (execute terms w r x .idle).outcome ≠ .done a) :
    (execute terms w r x .idle).registry.database.tables = r.database.tables := by
  cases hs : start? terms r x with
  | none =>
    obtain ⟨e, -, he⟩ := execute_of_not_start (w := w) hs
    rw [he]
  | some s =>
    rw [execute_of_start hs] at h ⊢
    exact (settle_not_done h).trans ((run_path w s).committed.1.trans (starts hs).tables)

theorem tables_of_mem_history {ev : Event σ} (h : ev ∈ history terms w r x) :
    ev.scene.registry.database.tables = r.database.tables := by
  cases hs : start? terms r x with
  | none => simp [history, hs] at h
  | some s =>
    simp only [history, hs] at h
    exact ((run_path w s).committed.2 ev h).trans (starts hs).tables

/-- **Work that joins a transaction commits nothing**, whatever has become of the transaction. -/
theorem tables_of_inTransaction (txn : Txn) (cancelled : Bool) :
    (execute terms w r x (.inTransaction txn cancelled)).registry.database.tables =
      r.database.tables :=
  (run_path w _).committed.1

/-- What every call keeps, every execution keeps. -/
theorem tables_keep {P : Tables → Prop}
    (hP : ∀ {β : Type} (c : Call β) b traps now t, P t → P (c.perform b traps now t).tables)
    (h : P r.database.tables) : P (execute terms w r x .idle).registry.database.tables := by
  by_cases hdone : ∃ a, (execute terms w r x .idle).outcome = .done a
  · obtain ⟨a, hdone⟩ := hdone
    cases hs : start? terms r x with
    | none =>
      obtain ⟨e, -, he⟩ := execute_of_not_start (w := w) hs
      rw [he]
      exact h
    | some s =>
      rw [execute_of_start hs] at hdone ⊢
      obtain ⟨-, -, hok, hsettle⟩ := settle_done hdone
      rw [hsettle, (Txn.tables_of_commit_ok hok).2]
      have hpath := run_path w s
      split
      · rw [hpath.committed.1, (starts hs).tables]
        exact h
      · exact (hpath.keeps (P := fun s => P s.txn.view) (fun _ _ _ hstep => hstep.keeps_view hP)
          ((starts hs).view ▸ h)).1
  · rw [tables_of_not_done fun a ha => hdone ⟨a, ha⟩]
    exact h

end Context

/-! ### Registries -/

namespace Registry

variable {α : Type} {r : Registry}

theorem ok_of_toOption {ε α : Type} {x : Except ε α} {a : α} (h : x.toOption = some a) :
    x = .ok a := by
  cases x with
  | ok b => exact congrArg Except.ok (Option.some.inj h)
  | error e => cases h

theorem answer_eq_ok {o : Outcome α} {a : α} : answer o = .ok a ↔ o = .done a := by
  cases o <;> simp [answer]

theorem tables_call_keep {P : Tables → Prop}
    (hP : ∀ {β : Type} (c : Call β) b traps now t, P t → P (c.perform b traps now t).tables)
    (c : Call α) (h : P r.database.tables) : P (r.call c).2.database.tables := by
  simp only [call, Database.call]
  split
  · exact h
  · exact hP c _ _ _ _ h

/-- **The keys of a registry stay unique**, whatever is executed on it. -/
theorem keyed_execute (terms : Terms) (w : Work Unit α) (h : r.database.tables.Keyed) :
    (r.execute terms w).2.database.tables.Keyed :=
  Context.tables_keep (fun c _ _ _ _ ht => Call.keyed_perform c ht) h

end Registry

/-! ### A small registry -/

namespace Context

def halfMinute : Terms := ⟨.ofSecs 30, .unset⟩

/-- An empty registry, which counts its identifiers. -/
def blank (b : Backend) : Registry := ⟨.create b, fun n => ⟨n⟩, 0⟩

def bare (url : String) : Cluster where
  name := ""
  url := url
  consoleUrl := ""
  metricsUrl := ""
  loggingUrl := ""
  appDns := ""
  full := false
  token := ""
  tokenUser := ""
  tokenEncrypted := false
  clientId := ""
  clientSecret := ""
  clientScope := ""
  tokenProvider := ""
  kind := .oso
  id := .nil

end Context

end Fleet
