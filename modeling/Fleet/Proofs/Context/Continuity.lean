/-
  Fleet/Proofs/Context/Continuity.lean
  ====================================
  **What no execution changes.**

  An execution may change the committed tables, and it makes the clock go on.  The kind of the
  database, the traps that are set and the source of identifiers stay what they were, whatever the
  work does and however it ends (`Registry.continues_execute`).
-/
import Fleet.Proofs.Context.Execution

namespace Fleet

open Fleet.Store Fleet.Work

/-- The second registry is the first one at a later time. -/
structure Registry.Continues (r r' : Registry) : Prop where
  backend : r'.database.backend = r.database.backend
  traps : r'.database.traps = r.database.traps
  ids : r'.ids = r.ids
  clock : r.database.clock ≤ r'.database.clock

namespace Registry.Continues

variable {r r' r'' : Registry}

theorem refl (r : Registry) : r.Continues r := ⟨rfl, rfl, rfl, le_refl _⟩

theorem trans (h : r.Continues r') (h' : r'.Continues r'') : r.Continues r'' where
  backend := h'.backend.trans h.backend
  traps := h'.traps.trans h.traps
  ids := h'.ids.trans h.ids
  clock := le_trans h.clock h'.clock

end Registry.Continues

/-! ### Transactions -/

section

variable (r : Registry) (x : Txn)

theorem Registry.continues_commit :
    r.Continues { r with database := (x.commit r.database).2.1 } := by
  unfold Txn.commit
  split
  · exact .refl r
  · cases x.condition with
    | lost => exact .refl r
    | aborted => exact ⟨rfl, rfl, rfl, le_refl _⟩
    | running =>
      dsimp only
      split <;> exact ⟨rfl, rfl, rfl, le_refl _⟩

theorem Registry.continues_rollback :
    r.Continues { r with database := (x.rollback r.database).2.1 } := by
  unfold Txn.rollback
  split
  · exact .refl r
  · cases x.condition <;> exact ⟨rfl, rfl, rfl, le_refl _⟩

end

/-! ### Work -/

namespace Work

variable {σ α : Type} {s s' : Scene σ}

theorem Scene.continues_call (s : Scene σ) (c : Call β) :
    s.registry.Continues (s.call c).2.registry := by
  rcases s.call_cases c with ⟨-, hcall⟩ | ⟨-, e, hcall⟩
  · rw [hcall]
    exact ⟨rfl, rfl, rfl, Nat.le_succ _⟩
  · rw [hcall]
    exact .refl _

theorem Step.continues {act : Act} (h : Step s act s') : s.registry.Continues s'.registry := by
  cases h with
  | call s c => exact s.continues_call c
  | await s =>
    unfold Scene.expire
    split
    · exact .refl _
    · exact Registry.continues_rollback s.registry s.txn.markClosed
  | draw s => exact ⟨rfl, rfl, rfl, le_refl _⟩
  | write s x => exact .refl _
  | keep s => exact .refl _
  | sever s => exact .refl _

theorem continues_run (w : Work σ α) (s : Scene σ) : s.registry.Continues (w.run s).2.registry :=
  ((run_path w s).keeps (P := fun x => s.registry.Continues x.registry)
    (fun _ _ _ hstep h => h.trans hstep.continues) (.refl _)).1

/-- No step takes an identifier back. -/
theorem Step.drawn_le {act : Act} (h : Step s act s') : s.registry.drawn ≤ s'.registry.drawn := by
  cases h with
  | call s c => exact le_rfl
  | await s =>
    unfold Scene.expire
    split <;> exact le_rfl
  | draw s => exact Nat.le_succ _
  | write s x => exact le_rfl
  | keep s => exact le_rfl
  | sever s => exact le_rfl

theorem drawn_le_run (w : Work σ α) (s : Scene σ) :
    s.registry.drawn ≤ (w.run s).2.registry.drawn :=
  ((run_path w s).keeps (P := fun x => s.registry.drawn ≤ x.registry.drawn)
    (fun _ _ _ hstep h => le_trans h hstep.drawn_le) le_rfl).1

end Work

/-! ### Executions -/

namespace Context

variable {σ α : Type} {terms : Terms} {r : Registry} {x : σ} {s : Scene σ}

/-- A transaction begins at the next reading of the clock. -/
theorem clock_start? (h : start? terms r x = some s) :
    s.registry.database.clock = r.database.clock + 1 ∧ s.txn.began = r.database.clock + 1 := by
  unfold start? Txn.begin at h
  cases hf : r.database.traps.find? (·.point = .start) with
  | some t => simp [hf] at h
  | none =>
    simp only [hf, Option.some.injEq] at h
    subst h
    exact ⟨rfl, rfl⟩

theorem continues_settle (o : Outcome α) (s : Scene σ) :
    s.registry.Continues { s.registry with database := (settle terms o s).2.1 } := by
  unfold settle
  split
  · exact .refl _
  · cases o with
    | done a =>
      have hcommit := s.registry.continues_commit s.txn
      rcases hm : s.txn.commit s.registry.database with ⟨e | u, db, txn⟩
      · rw [hm] at hcommit
        simp only [hm]
        exact hcommit
      · rw [hm] at hcommit
        simp only [hm]
        exact hcommit
    | failed e => exact s.registry.continues_rollback s.txn
    | brokenDown b => exact s.registry.continues_rollback s.txn

end Context

namespace Registry

variable {α : Type}

theorem continues_execute (r : Registry) (terms : Terms) (w : Work Unit α) :
    r.Continues (r.execute terms w).2 := by
  change r.Continues (Context.execute terms w r () .idle).registry
  cases hs : Context.start? terms r () with
  | none =>
    obtain ⟨e, -, he⟩ := Context.execute_of_not_start (w := w) hs
    rw [he]
    exact .refl r
  | some s =>
    have hstart := Context.starts hs
    have hbegin : r.Continues s.registry :=
      ⟨hstart.backend, hstart.traps, hstart.ids, (Context.clock_start? hs).1 ▸ Nat.le_succ _⟩
    rw [Context.execute_of_start hs]
    exact (hbegin.trans (continues_run w s)).trans (Context.continues_settle _ _)

theorem drawn_execute {r : Registry} {terms : Terms} {w : Work Unit α} {s : Scene Unit}
    (hs : Context.start? terms r () = some s) :
    (r.execute terms w).2.drawn = (w.run s).2.registry.drawn := by
  rw [execute, Context.execute_of_start hs]

/-- No execution takes an identifier back. -/
theorem drawn_le_execute (r : Registry) (terms : Terms) (w : Work Unit α) :
    r.drawn ≤ (r.execute terms w).2.drawn := by
  cases hs : Context.start? terms r () with
  | none =>
    obtain ⟨e, -, he⟩ := Context.execute_of_not_start (w := w) hs
    rw [execute, he]
  | some s =>
    rw [drawn_execute hs, ← (Context.starts hs).drawn]
    exact drawn_le_run w s

theorem clock_execute {r : Registry} {terms : Terms} {s : Scene Unit}
    (hs : Context.start? terms r () = some s) (w : Work Unit α) :
    (w.run s).2.registry.database.clock ≤ (r.execute terms w).2.database.clock := by
  rw [execute, Context.execute_of_start hs]
  exact (Context.continues_settle _ _).clock

theorem continues_call (r : Registry) (c : Call α) : r.Continues (r.call c).2 :=
  ⟨rfl, rfl, rfl, Nat.le_succ _⟩

end Registry

end Fleet
