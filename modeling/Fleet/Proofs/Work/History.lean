/-
  Fleet/Proofs/Work/History.lean
  ==============================
  **Histories of units of work.**

  `Work.run` tells how a unit of work ends.  Its history tells in addition, step by step, what
  it did and what that led to: which calls it made, when, and how they were answered.

  A step of a unit of work is one of six (`Step`), and a history is a path of steps from the
  scene at the beginning to the scene at the end (`run_path`).  This is the only place where
  the shape of the work matters: nesting, errors that are passed on or swallowed, and
  breakdowns all come to nothing but which steps are taken.  So whatever a step keeps, a unit
  of work keeps (`Path.keeps`).
-/
import Fleet.Proofs.Store.Effects
import Fleet.Work

namespace Fleet.Work

open Fleet.Store

variable {σ : Type}

/-! ### Calls on a scene -/

namespace Scene

def time (s : Scene σ) : Nat :=
  if s.registry.database.backend.clockStands then s.txn.began else s.registry.database.clock + 1

def IsLive (s : Scene σ) : Prop := s.txn.isClosed = false ∧ s.txn.condition = .running

instance (s : Scene σ) : Decidable s.IsLive := inferInstanceAs (Decidable (_ ∧ _))

/-- What a call would come to if the transaction took it. -/
def attempt (s : Scene σ) (c : Call β) : Effect β :=
  c.perform s.registry.database.backend s.registry.database.traps s.time s.txn.view

/-- Whether the database refuses a statement of a call. -/
def refuses (s : Scene σ) (c : Call β) : Bool := s.IsLive && (s.attempt c).refused

/-- The scene after a call that the transaction took. -/
def afterCall (s : Scene σ) (c : Call β) : Scene σ :=
  { s with
    registry := { s.registry with
      database := { s.registry.database with clock := s.registry.database.clock + 1 } }
    txn := { s.txn with
      view := (s.attempt c).tables
      doomed := s.txn.doomed || (s.attempt c).dooms
      condition :=
        if (s.attempt c).refused && s.registry.database.backend.abortsOnFailure then .aborted
        else .running } }

/-- A live transaction takes a call; any other one answers with an error and stays as it is. -/
theorem call_cases (s : Scene σ) (c : Call β) :
    (s.IsLive ∧ s.call c = ((s.attempt c).reply, s.afterCall c)) ∨
      (¬ s.IsLive ∧ ∃ e, s.call c = (.error e, s)) := by
  simp only [IsLive, call, Txn.call]
  cases hc : s.txn.isClosed with
  | true => exact .inr ⟨by simp, _, rfl⟩
  | false =>
    cases hx : s.txn.condition with
    | lost => exact .inr ⟨by simp, _, rfl⟩
    | aborted => exact .inr ⟨by simp, _, rfl⟩
    | running => exact .inl ⟨by simp, rfl⟩

theorem call_of_reply {s : Scene σ} (hs : s.IsLive) {c : Call β} {a : β}
    (h : (s.attempt c).reply = .ok a) : s.call c = (.ok a, s.afterCall c) := by
  rcases s.call_cases c with ⟨-, hc⟩ | ⟨hn, -⟩
  · rw [hc, h]
  · exact absurd hs hn

theorem call_of_ok {s : Scene σ} {c : Call β} {a : β} (h : (s.call c).1 = .ok a) :
    s.IsLive ∧ (s.attempt c).reply = .ok a ∧ s.call c = (.ok a, s.afterCall c) := by
  rcases s.call_cases c with ⟨hl, hc⟩ | ⟨-, e, hc⟩
  · rw [hc] at h
    exact ⟨hl, h, call_of_reply hl h⟩
  · rw [hc] at h
    cases h

theorem IsLive.afterCall {s : Scene σ} (hs : s.IsLive) {c : Call β} {a : β}
    (h : (s.attempt c).reply = .ok a) : (s.afterCall c).IsLive := by
  have hr : (s.attempt c).refused = false := by
    cases hr : (s.attempt c).refused with
    | false => rfl
    | true =>
      obtain ⟨e, he⟩ := Call.perform_refused hr
      exact absurd (h.symm.trans he) nofun
  exact ⟨hs.1, by simp [Scene.afterCall, hr]⟩

theorem view_afterCall {s : Scene σ} {c : Call β} {a : β} (h : (s.attempt c).reply = .ok a) :
    (s.afterCall c).txn.view = c.effect s.time s.txn.view :=
  Call.perform_tables_of_ok h

/-- A closed transaction answers every call in the same way, and a call leaves it alone. -/
theorem call_of_isClosed {s : Scene σ} (h : s.txn.isClosed = true) (c : Call β) :
    s.call c = (.error .closed, s) := by
  simp [call, Txn.call, h]

end Scene

/-! ### Acts and steps -/

/-- What a running unit of work does. -/
inductive Act : Type 1 where
  /-- A call with the time at which it was made and its answer, and whether the database
      refused a statement of it. -/
  | call {β : Type} (time : Nat) (c : Call β) (reply : Except Error β) (refused : Bool)
  | draw (u : Uuid)
  | await
  | write
  | keep
  | sever

/-- What an act makes of the tables: a call that was answered has its effect, and nothing else
    has one. -/
def Act.apply (t : Tables) : Act → Tables
  | .call time c (.ok _) _ => c.effect time t
  | _ => t

def Act.isRefused : Act → Bool
  | .call _ _ _ refused => refused
  | _ => false

/-- The steps of units of work. -/
inductive Step : Scene σ → Act → Scene σ → Prop where
  | call {β : Type} (s : Scene σ) (c : Call β) :
      Step s (.call s.time c (s.call c).1 (s.refuses c)) (s.call c).2
  | draw (s : Scene σ) : Step s (.draw s.draw.1) s.draw.2
  | await (s : Scene σ) : Step s .await s.expire
  | write (s : Scene σ) (x : σ) : Step s .write { s with scratch := x }
  | keep (s : Scene σ) : Step s .keep { s with kept := true }
  | sever (s : Scene σ) : Step s .sever { s with txn := s.txn.sever }

structure Event (σ : Type) where
  act : Act
  scene : Scene σ

inductive Path : Scene σ → List (Event σ) → Scene σ → Prop where
  | nil (s : Scene σ) : Path s [] s
  | cons {s s' s'' : Scene σ} {act : Act} {es : List (Event σ)} :
      Step s act s' → Path s' es s'' → Path s (⟨act, s'⟩ :: es) s''

namespace Path

variable {s s' s'' : Scene σ} {es es' : List (Event σ)}

theorem append (h : Path s es s') (h' : Path s' es' s'') : Path s (es ++ es') s'' := by
  induction h with
  | nil => exact h'
  | cons hstep _ ih => exact .cons hstep (ih h')

/-- What every step keeps holds at the end of a path and everywhere on it. -/
theorem keeps {P : Scene σ → Prop} (hstep : ∀ s act s', Step s act s' → P s → P s')
    (h : Path s es s') (hs : P s) : P s' ∧ ∀ ev ∈ es, P ev.scene := by
  induction h with
  | nil => exact ⟨hs, by simp⟩
  | cons hs' _ ih =>
    have hnext := hstep _ _ _ hs' hs
    obtain ⟨hend, hall⟩ := ih hnext
    refine ⟨hend, ?_⟩
    intro ev hev
    rcases List.mem_cons.1 hev with rfl | hev
    · exact hnext
    · exact hall ev hev

end Path

/-! ### Histories -/

/-- What a unit of work does, from a scene on. -/
def history : Work σ α → Scene σ → List (Event σ)
  | done _, _ => []
  | fail _, _ => []
  | breakDown _, _ => []
  | call c next, s =>
    ⟨.call s.time c (s.call c).1 (s.refuses c), (s.call c).2⟩ ::
      (next (s.call c).1).history (s.call c).2
  | nest body next, s =>
    body.history s ++
      match body.run s with
      | (.done b, s') => (next (.ok b)).history s'
      | (.failed e, s') => (next (.error e)).history s'
      | (.brokenDown _, _) => []
  | draw next, s => ⟨.draw s.draw.1, s.draw.2⟩ :: (next s.draw.1).history s.draw.2
  | askCancelled next, s => (next s.cancelled).history s
  | awaitCancel next, s => ⟨.await, s.expire⟩ :: next.history s.expire
  | read next, s => (next s.scratch).history s
  | write x next, s => ⟨.write, { s with scratch := x }⟩ :: next.history { s with scratch := x }
  | keep next, s => ⟨.keep, { s with kept := true }⟩ :: next.history { s with kept := true }
  | sever next, s =>
    ⟨.sever, { s with txn := s.txn.sever }⟩ :: next.history { s with txn := s.txn.sever }

/-- **A history is a path to the scene in which the work ends.** -/
theorem run_path (w : Work σ α) (s : Scene σ) : Path s (w.history s) (w.run s).2 := by
  induction w generalizing s with
  | done a => exact .nil s
  | fail e => exact .nil s
  | breakDown b => exact .nil s
  | call c next ih => exact .cons (.call s c) (ih _ _)
  | nest body next ihBody ihNext =>
    have hbody := ihBody s
    simp only [history, run]
    rcases hr : body.run s with ⟨o, s'⟩
    rw [hr] at hbody
    cases o with
    | done b => exact hbody.append (ihNext _ _)
    | failed e => exact hbody.append (ihNext _ _)
    | brokenDown b => simpa using hbody
  | draw next ih => exact .cons (.draw s) (ih _ _)
  | askCancelled next ih => exact ih _ _
  | awaitCancel next ih => exact .cons (.await s) (ih _)
  | read next ih => exact ih _ _
  | write x next ih => exact .cons (.write s x) (ih _)
  | keep next ih => exact .cons (.keep s) (ih _)
  | sever next ih => exact .cons (.sever s) (ih _)

end Fleet.Work
