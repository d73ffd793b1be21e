/-
  Fleet/Proofs/Session/Afterwards.lean
  ====================================
  **No access after the end.**

  A transaction is over once the execution that opened it has returned, however it returned.  A
  context that is left over from it gives no access to anything (`NoAccess`): every call on it is
  turned away, directly or in work that is executed on it, and neither the database nor any other
  transaction is touched.  This stays so for the rest of the session (`Session.Reached.noAccess`).

  Work that goes on after its deadline has passed has no access either (`Context.LateWork`).
-/
import Fleet.Proofs.Context.Atomicity
import Fleet.Proofs.Session.Steps

namespace Fleet

open Fleet.Store Fleet.Work

/-- A context that gives no access to anything in a session. -/
structure Session.NoAccess (s : Session) (k : Context) : Prop where
  /-- A call on the context itself. -/
  call : ∃ x c, k = .inTransaction x c ∧ ∀ {β : Type} (c : Call β),
    x.call s.registry.database c = (.error .closed, s.registry.database, x)
  /-- Calls in work on the context, and in work inside of it. -/
  calls : ∀ {σ α : Type} (w : Work σ α) (y : σ) x c, k = .inTransaction x c →
    ∀ ev ∈ w.history ⟨s.registry, x, c, y, false⟩,
      ev.act.IsTurnedAway ∧ ev.scene.registry.database = s.registry.database
  untouched : ∀ {σ α : Type} before after (terms : Terms) (w : Work σ α) (y : σ),
    (s.resume before after k terms w y).registry.database = s.registry.database ∧
      (s.resume before after k terms w y).transactions = s.transactions

theorem Session.noAccess_of_isLeft {P : Tables → Prop} {k : Context} (h : k.IsLeft P) (s : Session) :
    s.NoAccess k := by
  obtain ⟨x, rfl, hclosed, -⟩ := h
  have hover {σ : Type} (y : σ) : Scene.IsOver ⟨s.registry, x, true, y, false⟩ := ⟨rfl, hclosed⟩
  refine ⟨⟨x, true, rfl, ?_⟩, ?_, ?_⟩
  · intro β c
    simp [Txn.call, hclosed]
  · intro σ α w y x' c' hk ev hev
    cases hk
    exact ((run_path w _).over (hover y)).2.2 ev hev
  · intro σ α before after terms w y
    exact ⟨((run_path w _).over (hover y)).2.1, rfl⟩

/-- Whatever work is executed next, it has no access once its deadline has passed. -/
def Context.LateWork (r : Registry) : Prop :=
  ∀ {σ α : Type} (terms : Terms) (w : Work σ α) (x : σ) (before after : List (Event σ))
      (ev : Event σ),
    Context.history terms w r x = before ++ ev :: after → ev.scene.cancelled = true →
      ∀ ev' ∈ after,
        ev'.act.IsTurnedAway ∧ ev'.scene.registry.database = ev.scene.registry.database

theorem Context.lateWork (r : Registry) : LateWork r := by
  intro σ α terms w x before after ev hhistory hc
  cases hs : start? terms r x with
  | none => simp [history, hs] at hhistory
  | some s =>
    simp only [history, hs] at hhistory
    have hpath := run_path w s
    rw [hhistory] at hpath
    obtain ⟨t, hbefore, hstep, hafter⟩ := hpath.split
    have htimely := hstep.isTimely (hbefore.isTimely (starts hs).isTimely)
    exact (hafter.over (htimely.isOver hc)).2.2

/-- **No access after the end**, by whatever context is left over at any time in a session, nor
    for work that is late. -/
theorem Session.Reached.noAccess {r : Registry} {s : Session} (h : Reached r s) :
    (∀ k ∈ s.contexts, s.NoAccess k) ∧ Context.LateWork s.registry := by
  -- only what is left over matters here, not what is in the tables
  have hs := h.upholds (P := fun _ => True) (fun _ _ _ _ _ _ => trivial) trivial
  constructor
  · intro k hk
    exact noAccess_of_isLeft (hs.contexts k hk) s
  · exact Context.lateWork s.registry

namespace Session

/-- A session in which work was late and its context has been kept. -/
def late : Session :=
  let e := Context.execute Context.halfMinute (Context.createLate (Context.bare "https://a/"))
    (Context.blank .sqlite) () .idle
  ⟨e.registry, [], e.kept.toList⟩

theorem late_noAccess :
    Reached (Context.blank .sqlite) late ∧ late.contexts.length = 1 ∧
      (∀ k ∈ late.contexts, late.NoAccess k) ∧ Context.LateWork late.registry :=
  have h : Reached (Context.blank .sqlite) late :=
    .step .start (.execute Context.halfMinute (Context.createLate (Context.bare "https://a/")) ())
  ⟨h, rfl, h.noAccess⟩

end Session

end Fleet
