/-
  Fleet/Proofs/Context/CallTree.lean
  ==================================
  **One transaction for a whole call tree.**

  A unit of work with all the work inside of it is a tree of executions.  The outermost one opens
  a transaction and ends it; every other one joins it (`execute_callTree`).

    * A transaction is opened once, on what is committed.  If it cannot be opened, nothing happens.
    * Every call in the tree runs on what all calls before it have made of the tables, until the
      deadline has passed, the connection is gone or the database has aborted the transaction
      (`Answered`).
    * Until the outermost work is over, or its deadline has passed, nothing is sent to the database
      that would end the transaction.
    * Then it is ended once.  Work that succeeds in time is committed, and everything else is
      rolled back (`EndsInTime`, `EndsLate`).  A rollback that fails does not show.
    * Inner work hands its answer to the work around it, with the transaction as it left it.
    * The context is idle again in the end, and ready for a new transaction.
-/
import Fleet.Proofs.Context.Execution
import Fleet.Proofs.Store.Endings
import Fleet.Proofs.Work.Deadline
import Fleet.Proofs.Work.Nesting

namespace Fleet

open Fleet.Store

/-! ### Endings -/

def Outcome.ending : Outcome α → Ending
  | .done _ => .commit
  | _ => .rollback

theorem Outcome.ending_eq_commit_iff {o : Outcome α} : o.ending = .commit ↔ ∃ a, o = .done a := by
  cases o <;> simp [Outcome.ending]

/-- What an execution comes to whose work is over in time, once the end of its transaction has
    been answered.  It does not matter what a rollback is answered with. -/
def Outcome.verdict : Outcome α → Except Error Unit → Outcome α
  | .done a, .ok _ => .done a
  | .done _, .error e => .failed e
  | .failed e, _ => .failed e
  | .brokenDown b, _ => .failed (.panicked b.message)

namespace Context

open Fleet.Work

variable {σ α : Type}

theorem settle_inTime (terms : Terms) (o : Outcome α) {s : Scene σ} (hc : s.cancelled = false) :
    settle terms o s =
      (o.verdict (o.ending.attempt s.registry.database s.txn).1,
        (o.ending.attempt s.registry.database s.txn).2) := by
  cases o with
  | done a =>
    simp only [settle, hc, Bool.false_eq_true, if_false, Outcome.ending, Ending.attempt]
    rcases s.txn.commit s.registry.database with ⟨reply, db, txn⟩
    cases reply <;> rfl
  | failed e => simp [settle, hc, Outcome.ending, Ending.attempt, Outcome.verdict]
  | brokenDown b => simp [settle, hc, Outcome.ending, Ending.attempt, Outcome.verdict]

/-- Whether late or in time, a transaction is closed once it has been settled. -/
theorem settle_closes (terms : Terms) (o : Outcome α) {s : Scene σ} (hs : s.IsTimely) :
    Ending.Closes s.registry.database s.txn (settle terms o s).2 := by
  cases hc : s.cancelled with
  | false =>
    rw [settle_inTime terms o hc]
    exact Ending.closes _
  | true =>
    have hsettle : (settle terms o s).2 = (s.registry.database, s.txn) := by simp [settle, hc]
    rw [hsettle]
    exact ⟨hs.isClosed.trans hc, rfl, rfl, .inl rfl⟩

/-- The end of an execution whose work has ended in the scene `s`, in time: the transaction is
    still open, and one attempt is made to end it. -/
structure EndsInTime (o : Outcome α) (s : Scene σ) (e : Executed σ α) : Prop where
  isOpen : s.txn.isClosed = false
  database : e.registry.database = (o.ending.attempt s.registry.database s.txn).2.1
  outcome : e.outcome = o.verdict (o.ending.attempt s.registry.database s.txn).1
  /-- The only error of its own that an execution adds is that of a commit. -/
  commitFailed : ∀ err, (s.txn.commit s.registry.database).1 = .error err →
    ∃ f, err = .commitFailed f

/-- The end of an execution whose work has started in the scene `s` and is late: the transaction
    was rolled back when the deadline passed, and nothing reaches the database after that. -/
structure EndsLate (terms : Terms) (s : Scene σ) (es : List (Event σ)) (e : Executed σ α) :
    Prop where
  outcome : e.outcome = .failed (.timedOut terms.timeout)
  database : ∃ before t after, es = before ++ ⟨.await, t.expire⟩ :: after ∧ Path s before t ∧
    t.cancelled = false ∧ t.txn.isClosed = false ∧
    e.registry.database = (Ending.rollback.attempt t.registry.database t.txn.markClosed).2.1 ∧
    ∀ ev ∈ after, ev.scene.registry.database = e.registry.database

/-- One statement ends the transaction of work that has started in the scene `s`, unless the
    connection is gone, and it is a commit exactly if the work succeeds in time. -/
def EndsOnce (w : Work σ α) (s : Scene σ) (e : Executed σ α) : Prop :=
  ∃ ending : Ending,
    (ending = .commit ↔ (w.run s).2.cancelled = false ∧ ∃ a, (w.run s).1 = .done a) ∧
      (e.registry.database.received = s.registry.database.received ++ [ending.statement] ∨
        e.registry.database.received = s.registry.database.received ∧
          ∃ ev ∈ w.history s, ev.act = .sever)

/-! ### Calls in a tree -/

section Calls

variable {β : Type} (r : Registry) (before : List (Event σ)) (time : Nat) (c : Call β)

/-- How a call in a call tree is answered after some events, and what view it leaves. -/
inductive Answered : Except Error β → Tables → Prop where
  /-- It is taken, and runs on what all calls before it have made of the committed tables. -/
  | taken : (∀ ev ∈ before, ev.scene.cancelled = false) →
      Answered
        (c.perform r.database.backend r.database.traps time
          (applyAll r.database.tables before)).reply
        (c.perform r.database.backend r.database.traps time
          (applyAll r.database.tables before)).tables
  | late : (∃ ev ∈ before, ev.scene.cancelled = true) →
      Answered (.error .closed) (applyAll r.database.tables before)
  | severed : (∃ ev ∈ before, ev.act = .sever) →
      Answered (.error (.database .disconnected)) (applyAll r.database.tables before)
  /-- A statement has failed on a database that aborts on failure. -/
  | aborted : r.database.backend.abortsOnFailure = true →
      (∃ ev ∈ before, ev.act.isRefused = true) →
      Answered (.error (.database (r.database.backend.refusal 25 Txn.abortedText)))
        (applyAll r.database.tables before)

end Calls

theorem Starts.cancelled {r : Registry} {s : Scene σ} (h : Starts r s) : s.cancelled = false :=
  h.isTimely.isClosed.symm.trans h.isLive.1

/-- A transaction that has lost its connection was cut off from it. -/
theorem Starts.severed {r : Registry} {s t : Scene σ} {es : List (Event σ)} (h : Starts r s)
    (hpath : Path s es t) (hl : t.txn.condition = .lost) : ∃ ev ∈ es, ev.act = .sever := by
  rcases hpath.severed hl with hs | hs
  · rw [h.isLive.2] at hs
    cases hs
  · exact hs

/-- **Every call in a tree sees what all calls before it have done.** -/
theorem answered {r : Registry} {s t : Scene σ} {before : List (Event σ)} (hs : Starts r s)
    (hpath : Path s before t) {β : Type} (c : Call β) :
    Answered r before t.time c (t.call c).1 (t.call c).2.txn.view := by
  have hview : t.txn.view = applyAll r.database.tables before := by rw [hpath.view, hs.view]
  have htimely := hpath.isTimely hs.isTimely
  by_cases hc : t.cancelled = true
  · rw [Scene.call_of_isClosed (htimely.isClosed.trans hc) c, hview]
    obtain ⟨before₁, u, before₂, rfl, -⟩ := hpath.late hs.cancelled hc
    exact .late ⟨⟨.await, u.expire⟩, by simp, u.expire_cancelled⟩
  · rw [Bool.not_eq_true] at hc
    have hopen := htimely.isClosed.trans hc
    cases hx : t.txn.condition with
    | lost =>
      simp only [Scene.call, Txn.call, hopen, hx, Bool.false_eq_true, if_false, hview]
      exact .severed (hs.severed hpath hx)
    | aborted =>
      simp only [Scene.call, Txn.call, hopen, hx, Bool.false_eq_true, if_false, hview,
        hpath.backend, hs.backend]
      rcases hpath.condition with h | h
      · rw [hx] at h; cases h
      · rw [hx, hs.isLive.2, hs.backend] at h
        split at h
        · rename_i hr
          rw [Bool.and_eq_true, List.any_eq_true] at hr
          exact .aborted hr.2 hr.1
        · cases h
    | running =>
      rcases t.call_cases c with ⟨-, hcall⟩ | ⟨hlive, -⟩
      · rw [hcall]
        simp only [Scene.afterCall, Scene.attempt, hview, hpath.backend, hpath.traps, hs.backend,
          hs.traps]
        exact .taken (hpath.punctual hc).2.2
      · exact absurd ⟨hopen, hx⟩ hlive

/-! ### The whole tree -/

structure OneTransaction (terms : Terms) (w : Work σ α) (r : Registry) (x : σ) (s : Scene σ) :
    Prop where
  opened : s.registry.database.received =
    r.database.received ++ r.database.backend.opening terms.isolation
  view : s.txn.view = r.database.tables
  calls : ∀ {β : Type} before time (c : Call β) reply refused t after,
    w.history s = before ++ ⟨.call time c reply refused, t⟩ :: after →
      Answered r before time c reply t.txn.view
  /-- As long as the deadline has not passed, nothing ends the transaction. -/
  unended : ∀ before t after, w.history s = before ++ after → Path s before t →
    t.cancelled = false →
      t.txn.isClosed = false ∧ t.registry.database.received = s.registry.database.received
  inTime : (w.run s).2.cancelled = false →
    EndsInTime (w.run s).1 (w.run s).2 (execute terms w r x .idle)
  late : (w.run s).2.cancelled = true →
    EndsLate terms s (w.history s) (execute terms w r x .idle)
  ended : EndsOnce w s (execute terms w r x .idle)

/-- Work inside of work, reached in the scene `t`, `next` being what the outer work does with its
    answer: it is executed on a context in the transaction, which it leaves open. -/
structure Joins (terms : Terms) (body : Work σ β) (next : Except Error β → Work σ α)
    (t : Scene σ) : Prop where
  outcome : (t.join terms body).outcome = (body.run t).1
  context : (t.join terms body).context =
    .inTransaction (body.run t).2.txn (body.run t).2.cancelled
  registry : (t.join terms body).registry = (body.run t).2.registry
  handedBack : (Work.nest body next).run t =
    (handBack next (t.join terms body).outcome).run (body.run t).2
  unended : (body.run t).2.cancelled = false →
    (body.run t).2.txn.isClosed = false ∧
      (t.join terms body).registry.database.received = t.registry.database.received

/-- A tree of executions on an idle context. -/
structure CallTree (terms : Terms) (w : Work σ α) (r : Registry) (x : σ) : Prop where
  refused : start? terms r x = none →
    ∃ e, Txn.begin r.database terms.isolation = (.error e, r.database) ∧
      execute terms w r x .idle = {
        outcome := .failed e, context := .idle, registry := r, scratch := x, kept := none }
  begun : ∀ s, start? terms r x = some s → OneTransaction terms w r x s
  inner : ∀ s, start? terms r x = some s → ∀ {β γ : Type} (body : Work σ β)
    (next : Except Error β → Work σ γ) t, Reaches (.nest body next) t w s →
      (∃ before after, w.history s = before ++ body.history t ++ after) ∧
        ∀ terms', Joins terms' body next t
  idle : (execute terms w r x .idle).context = .idle
  /-- The next transaction is a new one, on what is committed by then. -/
  anew : ∀ {τ : Type} (terms' : Terms) (y : τ) s,
    start? terms' (execute terms w r x .idle).registry y = some s →
      s.txn.view = (execute terms w r x .idle).registry.database.tables ∧ s.txn.isClosed = false

section

variable {terms : Terms} {w : Work σ α} {r : Registry} {x : σ} {s : Scene σ}

theorem opened_of_start (h : start? terms r x = some s) :
    s.registry.database.received =
      r.database.received ++ r.database.backend.opening terms.isolation := by
  unfold start? at h
  rcases hb : Txn.begin r.database terms.isolation with ⟨reply, db⟩
  cases reply with
  | error e => simp [hb] at h
  | ok txn =>
    simp only [hb, Option.some.injEq] at h
    rw [← h]
    exact (Txn.begun hb).received

theorem Starts.unended (h : Starts r s) {before : List (Event σ)} {t : Scene σ}
    (hpath : Path s before t) (hc : t.cancelled = false) :
    t.txn.isClosed = false ∧ t.registry.database.received = s.registry.database.received :=
  ⟨(hpath.isTimely h.isTimely).isClosed.trans hc, (hpath.punctual hc).2.1⟩

theorem endsInTime (h : start? terms r x = some s) (hc : (w.run s).2.cancelled = false) :
    EndsInTime (w.run s).1 (w.run s).2 (execute terms w r x .idle) := by
  have hopen := ((starts h).unended (run_path w s) hc).1
  rw [execute_of_start h, settle_inTime terms _ hc]
  exact ⟨hopen, rfl, rfl, fun _ => Txn.commit_error hopen⟩

theorem endsLate (h : start? terms r x = some s) (hc : (w.run s).2.cancelled = true) :
    EndsLate terms s (w.history s) (execute terms w r x .idle) := by
  have hsettle : settle terms (w.run s).1 (w.run s).2 =
      (.failed (.timedOut terms.timeout), (w.run s).2.registry.database, (w.run s).2.txn) := by
    simp [settle, hc]
  obtain ⟨before, t, after, hsplit, hbefore, ht, hafter⟩ :=
    (run_path w s).late (starts h).cancelled hc
  have hopen := ((starts h).unended hbefore ht).1
  have hexpire : t.expire.registry.database =
      (Ending.rollback.attempt t.registry.database t.txn.markClosed).2.1 := by
    simp [Scene.expire, ht, Ending.attempt]
  have hover : t.expire.IsOver :=
    ((Step.await t).isTimely (hbefore.isTimely (starts h).isTimely)).isOver t.expire_cancelled
  obtain ⟨-, hend, hall⟩ := hafter.over hover
  rw [execute_of_start h, hsettle]
  refine ⟨rfl, before, t, after, hsplit, hbefore, ht, hopen, hend.trans hexpire, ?_⟩
  intro ev hev
  exact (hall ev hev).2.trans hend.symm

theorem endsOnce (h : start? terms r x = some s) : EndsOnce w s (execute terms w r x .idle) := by
  cases hc : (w.run s).2.cancelled with
  | false =>
    have hpath := run_path w s
    have hin := endsInTime (w := w) h hc
    refine ⟨(w.run s).1.ending, ?_, ?_⟩
    · rw [Outcome.ending_eq_commit_iff, and_iff_right hc]
    · rw [hin.database, Txn.received_attempt _ hin.isOpen, (hpath.punctual hc).2.1]
      by_cases hl : (w.run s).2.txn.condition = .lost
      · exact .inr ⟨by simp [hl], (starts h).severed hpath hl⟩
      · exact .inl (by simp [hl])
  | true =>
    obtain ⟨-, before, t, after, hsplit, hpath, ht, hopen, hdb, -⟩ := endsLate (w := w) h hc
    refine ⟨.rollback, by simp [hc], ?_⟩
    have hended : t.txn.ended = false := Txn.ended_of_isClosed hopen
    change t.txn.markClosed.ended = false at hended
    rw [hdb, Ending.attempt, Txn.received_rollback hended, (hpath.punctual ht).2.1]
    by_cases hl : t.txn.markClosed.condition = .lost
    · obtain ⟨ev, hev, hact⟩ := (starts h).severed hpath hl
      exact .inr ⟨by simp [hl], ev, by simp [hsplit, hev], hact⟩
    · exact .inl (by simp [hl])

theorem answered_of_start (h : start? terms r x = some s) {β : Type} {before after : List (Event σ)}
    {time : Nat} {c : Call β} {reply : Except Error β} {refused : Bool} {t : Scene σ}
    (hsplit : w.history s = before ++ ⟨.call time c reply refused, t⟩ :: after) :
    Answered r before time c reply t.txn.view := by
  have hpath := run_path w s
  rw [hsplit] at hpath
  obtain ⟨u, hbefore, hstep, -⟩ := hpath.split
  cases hstep
  exact answered (starts h) hbefore c

theorem oneTransaction (h : start? terms r x = some s) : OneTransaction terms w r x s where
  opened := opened_of_start h
  view := (starts h).view
  calls _ _ _ _ _ _ _ := answered_of_start h
  unended _ _ _ _ := (starts h).unended
  inTime := endsInTime h
  late := endsLate h
  ended := endsOnce h

theorem joins (h : start? terms r x = some s) {β γ : Type} {body : Work σ β}
    {next : Except Error β → Work σ γ} {t : Scene σ} (hreach : Reaches (.nest body next) t w s) :
    (∃ before after, w.history s = before ++ body.history t ++ after) ∧
      ∀ terms', Joins terms' body next t := by
  obtain ⟨before, after, hsplit, hbefore⟩ := hreach.history
  constructor
  · rw [history_nest_eq, ← List.append_assoc, List.append_assoc] at hsplit
    exact ⟨before, _, hsplit⟩
  · intro terms'
    have hpath := run_path body t
    obtain ⟨houtcome, hcontext, hregistry⟩ := join_eq terms' body t
    refine ⟨houtcome, hcontext, hregistry, ?_, ?_⟩
    · rw [houtcome]
      exact run_nest_eq body next t
    · intro hc
      rw [hregistry]
      exact ⟨((starts h).unended (hbefore.append hpath) hc).1, (hpath.punctual hc).2.1⟩

end

/-- **A call tree has one transaction.** -/
theorem execute_callTree (terms : Terms) (w : Work σ α) (r : Registry) (x : σ) :
    CallTree terms w r x where
  refused := execute_of_not_start
  begun _ := oneTransaction
  inner _ h _ _ _ _ _ := joins h
  idle := by
    cases hs : start? terms r x with
    | none =>
      obtain ⟨e, -, he⟩ := execute_of_not_start (w := w) hs
      rw [he]
    | some s => rw [execute_of_start hs]
  anew _ _ _ h := ⟨(starts h).view, (starts h).isLive.1⟩

end Context

end Fleet
