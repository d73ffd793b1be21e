/-
  Fleet/Proofs/Work/Transaction.lean
  ==================================
  **What a running unit of work does to its transaction.**

  Four facts about steps carry everything that is said about transactions later on:

    * no step changes what is committed                               (`Step.committed`);
    * a step changes the view by the effect of an answered call only  (`Step.view`);
    * a transaction is closed and ended exactly when its work has been cancelled
      (`Scene.IsTimely`, kept by `Step.isTimely`);
    * once a statement has been refused, a database that aborts on failure keeps the
      transaction aborted, and no other database aborts one          (`Step.condition`).

  Along a path they add up: the view is the old one with the effects of all answered calls in
  their order (`Path.view`), and the condition tells whether a statement has been refused
  (`Path.condition`).
-/
import Fleet.Proofs.Work.History

namespace Fleet.Work

open Fleet.Store

variable {σ : Type}

/-! ### Steps -/

/-- The deadline passes for a unit of work once: its transaction is then marked and ended. -/
theorem Scene.expire_cases (s : Scene σ) :
    (s.cancelled = true ∧ s.expire = s) ∨
      (s.cancelled = false ∧ s.expire.cancelled = true ∧ s.expire.txn.marked = true ∧
        s.expire.txn.ended = true ∧ s.expire.txn.view = s.txn.view ∧
        s.expire.txn.condition = s.txn.condition ∧
        s.expire.registry.database.tables = s.registry.database.tables ∧
        s.expire.registry.database.backend = s.registry.database.backend ∧
        s.expire.registry.database.traps = s.registry.database.traps) := by
  unfold expire
  by_cases hc : s.cancelled = true
  · exact .inl ⟨hc, if_pos hc⟩
  · refine .inr ⟨by simpa using hc, ?_⟩
    rw [if_neg hc]
    simp only [Txn.rollback, Txn.markClosed]
    by_cases he : s.txn.ended = true
    · simp [he]
    · rcases s.txn.condition <;> simp [he, Database.receive]

namespace Step

variable {s s' : Scene σ} {act : Act}

/-- **No step changes what is committed**, nor the database in any other respect that matters. -/
theorem committed (h : Step s act s') :
    s'.registry.database.tables = s.registry.database.tables ∧
      s'.registry.database.backend = s.registry.database.backend ∧
      s'.registry.database.traps = s.registry.database.traps := by
  cases h with
  | @call _ _ c =>
    rcases s.call_cases c with ⟨-, h⟩ | ⟨-, e, h⟩ <;> rw [h] <;> exact ⟨rfl, rfl, rfl⟩
  | await =>
    rcases s.expire_cases with ⟨-, h⟩ | ⟨-, -, -, -, -, -, h⟩
    · rw [h]; exact ⟨rfl, rfl, rfl⟩
    · exact h
  | draw | write | keep | sever => exact ⟨rfl, rfl, rfl⟩

/-- **A step changes the view by the effect of an answered call.** -/
theorem view (h : Step s act s') : s'.txn.view = act.apply s.txn.view := by
  cases h with
  | @call _ _ c =>
    rcases s.call_cases c with ⟨-, h⟩ | ⟨-, e, h⟩
    · rw [h]
      cases hr : (s.attempt c).reply with
      | ok a => exact Call.perform_tables_of_ok hr
      | error e => exact Call.perform_tables_of_error hr
    · rw [h]; rfl
  | await =>
    rcases s.expire_cases with ⟨-, h⟩ | ⟨-, -, -, -, h, -⟩
    · rw [h]; rfl
    · exact h
  | draw | write | keep | sever => rfl

theorem keeps_view {P : Tables → Prop}
    (hP : ∀ {β : Type} (c : Call β) b traps now t, P t → P (c.perform b traps now t).tables)
    (h : Step s act s') (hs : P s.txn.view) : P s'.txn.view := by
  cases h with
  | @call _ _ c =>
    rcases s.call_cases c with ⟨-, h⟩ | ⟨-, e, h⟩
    · rw [h]; exact hP c _ _ _ _ hs
    · rw [h]; exact hs
  | await =>
    rcases s.expire_cases with ⟨-, h⟩ | ⟨-, -, -, -, h, -⟩
    · rw [h]; exact hs
    · rw [h]; exact hs
  | draw | write | keep | sever => exact hs

theorem isLive_of_isRefused (h : Step s act s') (hr : act.isRefused = true) : s.IsLive := by
  cases h with
  | @call _ _ c =>
    simp only [Act.isRefused, Scene.refuses, Bool.and_eq_true, decide_eq_true_eq] at hr
    exact hr.1
  | await | draw | write | keep | sever => cases hr

/-- **A step leaves the condition of a transaction as it was**, unless the connection is cut or
    a statement is refused by a database that aborts on failure. -/
theorem condition (h : Step s act s') :
    s'.txn.condition = .lost ∨
      s'.txn.condition =
        if act.isRefused && s.registry.database.backend.abortsOnFailure then .aborted
        else s.txn.condition := by
  cases h with
  | @call _ _ c =>
    right
    rcases s.call_cases c with ⟨hl, h⟩ | ⟨hl, e, h⟩
    · rw [h]
      simp [Scene.afterCall, Act.isRefused, Scene.refuses, hl, hl.2]
    · rw [h]
      simp [Act.isRefused, Scene.refuses, hl]
  | await =>
    right
    rcases s.expire_cases with ⟨-, h⟩ | ⟨-, -, -, -, -, h, -⟩
    · rw [h]; rfl
    · rw [h]; rfl
  | sever => exact .inl rfl
  | draw | write | keep => exact .inr rfl

theorem lost (h : Step s act s') (hs : s.txn.condition = .lost) : s'.txn.condition = .lost := by
  rcases h.condition with hl | hc
  · exact hl
  · have hr : act.isRefused = false := by
      by_contra hr
      have := (h.isLive_of_isRefused (by simpa using hr)).2
      rw [hs] at this
      cases this
    rw [hc, hr]
    exact hs

/-- Nothing but a cut takes the connection away. -/
theorem severed (h : Step s act s') (hs : s'.txn.condition = .lost) :
    act = .sever ∨ s.txn.condition = .lost := by
  cases h with
  | @call _ _ c =>
    right
    rcases s.call_cases c with ⟨hl, h⟩ | ⟨-, e, h⟩
    · rw [h] at hs
      simp only [Scene.afterCall] at hs
      split at hs <;> cases hs
    · rw [h] at hs; exact hs
  | await =>
    right
    rcases s.expire_cases with ⟨-, h⟩ | ⟨-, -, -, -, -, h, -⟩
    · rw [h] at hs; exact hs
    · exact h.symm.trans hs
  | sever => exact .inl rfl
  | draw | write | keep => exact .inr hs

end Step

/-! ### Timeliness -/

/-- A transaction in which the marks of its end agree: it is marked as closed and it has ended
    exactly when its work has been cancelled. -/
structure Scene.IsTimely (s : Scene σ) : Prop where
  marked : s.txn.marked = s.cancelled
  ended : s.txn.ended = s.cancelled

theorem Step.isTimely {s s' : Scene σ} {act : Act} (h : Step s act s') (hs : s.IsTimely) :
    s'.IsTimely := by
  cases h with
  | @call _ _ c =>
    rcases s.call_cases c with ⟨-, h⟩ | ⟨-, e, h⟩ <;> rw [h] <;> exact ⟨hs.marked, hs.ended⟩
  | await =>
    rcases s.expire_cases with ⟨-, h⟩ | ⟨-, hc, hm, he, -⟩
    · rw [h]; exact hs
    · exact ⟨hm.trans hc.symm, he.trans hc.symm⟩
  | draw | write | keep | sever => exact ⟨hs.marked, hs.ended⟩

/-! ### Paths -/

/-- The tables after the effects of all answered calls, in their order. -/
def applyAll (t : Tables) (es : List (Event σ)) : Tables := es.foldl (fun t ev => ev.act.apply t) t

namespace Path

variable {s s' : Scene σ} {es : List (Event σ)}

theorem committed (h : Path s es s') :
    s'.registry.database.tables = s.registry.database.tables ∧
      ∀ ev ∈ es, ev.scene.registry.database.tables = s.registry.database.tables :=
  h.keeps (P := fun x => x.registry.database.tables = s.registry.database.tables)
    (fun _ _ _ hstep hx => hstep.committed.1.trans hx) rfl

theorem backends (h : Path s es s') :
    s'.registry.database.backend = s.registry.database.backend ∧
      ∀ ev ∈ es, ev.scene.registry.database.backend = s.registry.database.backend :=
  h.keeps (P := fun x => x.registry.database.backend = s.registry.database.backend)
    (fun _ _ _ hstep hx => hstep.committed.2.1.trans hx) rfl

theorem backend (h : Path s es s') :
    s'.registry.database.backend = s.registry.database.backend := h.backends.1

theorem traps (h : Path s es s') : s'.registry.database.traps = s.registry.database.traps :=
  (h.keeps (P := fun x => x.registry.database.traps = s.registry.database.traps)
    (fun _ _ _ hstep hx => hstep.committed.2.2.trans hx) rfl).1

theorem isTimely (h : Path s es s') (hs : s.IsTimely) : s'.IsTimely :=
  (h.keeps (fun _ _ _ hstep hx => hstep.isTimely hx) hs).1

/-- **The view is the old one with the effects of the answered calls in their order.** -/
theorem view (h : Path s es s') : s'.txn.view = applyAll s.txn.view es := by
  induction h with
  | nil => rfl
  | cons hstep _ ih => rw [ih, hstep.view]; rfl

/-- A transaction loses its connection where it is cut, and nowhere else. -/
theorem severed (h : Path s es s') (hs' : s'.txn.condition = .lost) :
    s.txn.condition = .lost ∨ ∃ ev ∈ es, ev.act = .sever := by
  induction h with
  | nil => exact .inl hs'
  | @cons _ s₁ _ act _ hstep _ ih =>
    rcases ih hs' with hlost | ⟨ev, hev, hact⟩
    · rcases hstep.severed hlost with hact | hlost
      · exact .inr ⟨⟨act, s₁⟩, List.mem_cons_self, hact⟩
      · exact .inl hlost
    · exact .inr ⟨ev, List.mem_cons_of_mem _ hev, hact⟩

/-- **Unless its connection is gone, a transaction is aborted exactly when a database that
    aborts on failure has refused a statement of it.** -/
theorem condition (h : Path s es s') :
    s'.txn.condition = .lost ∨
      s'.txn.condition =
        if es.any (·.act.isRefused) && s.registry.database.backend.abortsOnFailure then .aborted
        else s.txn.condition := by
  induction h with
  | nil => exact .inr (by simp)
  | @cons s s₁ s₂ act es hstep hpath ih =>
    rcases hstep.condition with hl | hc
    · exact .inl (hpath.keeps (fun _ _ _ h hx => h.lost hx) hl).1
    · rcases ih with hl | ih
      · exact .inl hl
      · right
        rw [ih, hc, hstep.committed.2.1, List.any_cons]
        cases act.isRefused <;> cases es.any _ <;>
          cases s.registry.database.backend.abortsOnFailure <;> rfl

end Path

end Fleet.Work
