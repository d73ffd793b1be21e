/-
  Fleet/Proofs/Work/Deadline.lean
  ===============================
  **The deadline, and what comes after it.**

  Until the deadline passes, a unit of work neither ends its transaction nor sends any
  transaction control (`Path.punctual`).  It passes at most once, while the work waits, and it
  ends the transaction there (`Path.late`).

  A transaction that has ended is over for good (`Scene.IsOver`): whatever work still goes on in
  it has every call turned away and leaves the database exactly as it is (`Path.over`).
-/
import Fleet.Proofs.Work.Composition

namespace Fleet.Work

open Fleet.Store

variable {σ : Type} {s s' : Scene σ} {act : Act} {es : List (Event σ)}

/-! ### Positions in a path -/

/-- Every event of a path is a step that lies between the events before it and those after it. -/
theorem Path.split {es₁ es₂ : List (Event σ)} {ev : Event σ} (h : Path s (es₁ ++ ev :: es₂) s') :
    ∃ s₁, Path s es₁ s₁ ∧ Step s₁ ev.act ev.scene ∧ Path ev.scene es₂ s' := by
  induction es₁ generalizing s with
  | nil =>
    cases h with
    | cons hstep hpath => exact ⟨s, .nil s, hstep, hpath⟩
  | cons e es₁ ih =>
    cases h with
    | cons hstep hpath =>
      obtain ⟨s₁, hbefore, hev, hafter⟩ := ih hpath
      exact ⟨s₁, .cons hstep hbefore, hev, hafter⟩

/-! ### Before the deadline -/

/-- **A step sends no transaction control**, unless the deadline passes in it. -/
theorem Step.punctual (h : Step s act s') :
    (s'.cancelled = s.cancelled ∧
        s'.registry.database.received = s.registry.database.received) ∨
      (s.cancelled = false ∧ act = .await ∧ s' = s.expire) := by
  cases h with
  | @call _ _ c =>
    left
    rcases s.call_cases c with ⟨-, h⟩ | ⟨-, e, h⟩ <;> rw [h] <;> exact ⟨rfl, rfl⟩
  | await =>
    rcases s.expire_cases with ⟨-, h⟩ | ⟨hc, -⟩
    · rw [h]; exact .inl ⟨rfl, rfl⟩
    · exact .inr ⟨hc, rfl, rfl⟩
  | draw | write | keep | sever => exact .inl ⟨rfl, rfl⟩

theorem Scene.expire_cancelled (s : Scene σ) : s.expire.cancelled = true := by
  rcases s.expire_cases with ⟨hc, h⟩ | ⟨-, hc, -⟩
  · rw [h]; exact hc
  · exact hc

/-- **Work that is not late has sent no transaction control**, nor has it been late before. -/
theorem Path.punctual (h : Path s es s') (hs : s'.cancelled = false) :
    s.cancelled = false ∧ s'.registry.database.received = s.registry.database.received ∧
      ∀ ev ∈ es, ev.scene.cancelled = false := by
  induction h with
  | nil => exact ⟨hs, rfl, by simp⟩
  | cons hstep _ ih =>
    obtain ⟨hc, hreceived, hall⟩ := ih hs
    rcases hstep.punctual with ⟨hsame, hquiet⟩ | ⟨-, -, rfl⟩
    · refine ⟨hsame.symm.trans hc, hreceived.trans hquiet, ?_⟩
      rintro ev hev
      rcases List.mem_cons.1 hev with rfl | hev
      · exact hc
      · exact hall ev hev
    · rw [Scene.expire_cancelled] at hc
      cases hc

/-- **Work becomes late while it waits**, and nowhere else. -/
theorem Path.late (h : Path s es s') (hs : s.cancelled = false) (hs' : s'.cancelled = true) :
    ∃ es₁ s₁ es₂, es = es₁ ++ ⟨.await, s₁.expire⟩ :: es₂ ∧ Path s es₁ s₁ ∧
      s₁.cancelled = false ∧ Path s₁.expire es₂ s' := by
  induction h with
  | nil => rw [hs] at hs'; cases hs'
  | @cons s s₁ s' act es hstep hpath ih =>
    rcases hstep.punctual with ⟨hsame, -⟩ | ⟨-, rfl, rfl⟩
    · obtain ⟨es₁, s₂, es₂, rfl, hbefore, hc, hafter⟩ := ih (hsame.trans hs) hs'
      exact ⟨⟨act, s₁⟩ :: es₁, s₂, es₂, rfl, .cons hstep hbefore, hc, hafter⟩
    · exact ⟨[], s, es, rfl, .nil s, hs, hpath⟩

/-! ### After the end -/

structure Scene.IsOver (s : Scene σ) : Prop where
  cancelled : s.cancelled = true
  closed : s.txn.isClosed = true

theorem Scene.IsTimely.isClosed (h : s.IsTimely) : s.txn.isClosed = s.cancelled := by
  rw [Txn.isClosed, h.marked, h.ended, Bool.or_self]

theorem Scene.IsTimely.isOver (h : s.IsTimely) (hc : s.cancelled = true) : s.IsOver :=
  ⟨hc, h.isClosed.trans hc⟩

/-- Whether the answer to an act, if it is a call, is that the transaction is closed. -/
def Act.IsTurnedAway : Act → Prop
  | .call _ _ reply _ => reply = .error .closed
  | _ => True

/-- **After the end every call is turned away, and nothing happens to the database.** -/
theorem Step.over (h : Step s act s') (hs : s.IsOver) :
    s'.IsOver ∧ act.IsTurnedAway ∧ s'.registry.database = s.registry.database := by
  cases h with
  | @call _ _ c =>
    rw [Scene.call_of_isClosed hs.closed c]
    exact ⟨hs, rfl, rfl⟩
  | await =>
    rcases s.expire_cases with ⟨-, h⟩ | ⟨hc, -⟩
    · rw [h]; exact ⟨hs, trivial, rfl⟩
    · rw [hs.cancelled] at hc; cases hc
  | draw | write | keep | sever => exact ⟨⟨hs.cancelled, hs.closed⟩, trivial, rfl⟩

theorem Path.over (h : Path s es s') (hs : s.IsOver) :
    s'.IsOver ∧ s'.registry.database = s.registry.database ∧
      ∀ ev ∈ es, ev.act.IsTurnedAway ∧ ev.scene.registry.database = s.registry.database := by
  induction h with
  | nil => exact ⟨hs, rfl, by simp⟩
  | cons hstep _ ih =>
    obtain ⟨hover, haway, hsame⟩ := hstep.over hs
    obtain ⟨hend, hdb, hall⟩ := ih hover
    refine ⟨hend, hdb.trans hsame, ?_⟩
    intro ev hev
    rcases List.mem_cons.1 hev with rfl | hev
    · exact ⟨haway, hsame⟩
    · exact ⟨(hall ev hev).1, (hall ev hev).2.trans hsame⟩

end Fleet.Work
