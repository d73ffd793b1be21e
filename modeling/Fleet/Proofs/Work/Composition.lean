/-
  Fleet/Proofs/Work/Composition.lean
  ==================================
  **Running composed work, and work that is late.**

  `run_bind`, `run_map` and `run_within` say how work runs that is made of parts, so that a composed
  unit of work is run part by part without being unfolded.

  Where the deadline passes in a unit of work is not written in it: it may pass anywhere.
  `Delayed w w'` says that `w'` is `w` except that it takes so long at some points that the
  deadline may pass there.  Such a delay can do one thing only (`Delayed.run`): the work is
  cancelled at its end, or it has run as if it had been on time.
-/
import Fleet.Proofs.Work.Transaction

namespace Fleet

open Fleet.Store

/-- The outcome with something made of the result, if there is one. -/
def Outcome.map (f : α → β) : Outcome α → Outcome β
  | .done a => .done (f a)
  | .failed e => .failed e
  | .brokenDown b => .brokenDown b

namespace Work

variable {σ : Type}

/-! ### Composed work -/

/-- One part after another: the second one runs from where the first one succeeded. -/
theorem run_bind (w : Work σ α) (f : α → Work σ β) (s : Scene σ) :
    (w >>= f).run s =
      match w.run s with
      | (.done a, s') => (f a).run s'
      | (.failed e, s') => (.failed e, s')
      | (.brokenDown b, s') => (.brokenDown b, s') := by
  change (w.bind f).run s = _
  induction w generalizing s with
  | done a => rfl
  | fail e => rfl
  | breakDown b => rfl
  | call c next ih => exact ih _ _ _
  | nest body next _ ih =>
    simp only [Work.bind, run]
    rcases body.run s with ⟨o, s'⟩
    cases o with
    | done b => exact ih _ _ _
    | failed e => exact ih _ _ _
    | brokenDown b => rfl
  | draw next ih => exact ih _ _ _
  | askCancelled next ih => exact ih _ _ _
  | awaitCancel next ih => exact ih _ _
  | read next ih => exact ih _ _ _
  | write x next ih => exact ih _ _
  | keep next ih => exact ih _ _
  | sever next ih => exact ih _ _

theorem run_map (f : α → β) (w : Work σ α) (s : Scene σ) :
    (f <$> w).run s = ((w.run s).1.map f, (w.run s).2) := by
  change (w >>= fun a => done (f a)).run s = _
  rw [run_bind]
  rcases w.run s with ⟨o, s'⟩
  cases o <;> rfl

/-- A context is put around a failure, and changes nothing else. -/
theorem run_within (context : String) (w : Work σ α) (s : Scene σ) :
    (w.within context).run s =
      (match (w.run s).1 with
        | .failed e => .failed (.within context e)
        | o => o,
        (w.run s).2) := by
  induction w generalizing s with
  | done a => rfl
  | fail e => rfl
  | breakDown b => rfl
  | call c next ih => exact ih _ _
  | nest body next _ ih =>
    simp only [within, run]
    rcases body.run s with ⟨o, s'⟩
    cases o with
    | done b => exact ih _ _
    | failed e => exact ih _ _
    | brokenDown b => rfl
  | draw next ih => exact ih _ _
  | askCancelled next ih => exact ih _ _
  | awaitCancel next ih => exact ih _
  | read next ih => exact ih _ _
  | write x next ih => exact ih _
  | keep next ih => exact ih _
  | sever next ih => exact ih _

/-! ### Late work -/

theorem Step.cancelled {s s' : Scene σ} {act : Act} (h : Step s act s')
    (hs : s.cancelled = true) : s'.cancelled = true := by
  cases h with
  | @call _ _ c =>
    rcases s.call_cases c with ⟨-, h⟩ | ⟨-, e, h⟩ <;> rw [h] <;> exact hs
  | await =>
    rcases s.expire_cases with ⟨-, h⟩ | ⟨-, hc, -⟩
    · rw [h]; exact hs
    · exact hc
  | draw | write | keep | sever => exact hs

theorem run_cancelled (w : Work σ α) {s : Scene σ} (hs : s.cancelled = true) :
    (w.run s).2.cancelled = true :=
  ((run_path w s).keeps (fun _ _ _ hstep => hstep.cancelled) hs).1

/-- The second work is the first one with delays in which the deadline may pass. -/
inductive Delayed : {α : Type} → Work σ α → Work σ α → Prop where
  | done (a : α) : Delayed (.done a) (.done a)
  | fail (e : Error) : Delayed (.fail e : Work σ α) (.fail e)
  | breakDown (b : Breakdown) : Delayed (.breakDown b : Work σ α) (.breakDown b)
  | call {c : Call β} {next next' : Except Error β → Work σ α} :
      (∀ r, Delayed (next r) (next' r)) → Delayed (.call c next) (.call c next')
  | nest {body body' : Work σ β} {next next' : Except Error β → Work σ α} :
      Delayed body body' → (∀ r, Delayed (next r) (next' r)) →
        Delayed (.nest body next) (.nest body' next')
  | draw {next next' : Uuid → Work σ α} :
      (∀ u, Delayed (next u) (next' u)) → Delayed (.draw next) (.draw next')
  | askCancelled {next next' : Bool → Work σ α} :
      (∀ b, Delayed (next b) (next' b)) → Delayed (.askCancelled next) (.askCancelled next')
  | awaitCancel {next next' : Work σ α} :
      Delayed next next' → Delayed (.awaitCancel next) (.awaitCancel next')
  | read {next next' : σ → Work σ α} :
      (∀ x, Delayed (next x) (next' x)) → Delayed (.read next) (.read next')
  | write {x : σ} {next next' : Work σ α} :
      Delayed next next' → Delayed (.write x next) (.write x next')
  | keep {next next' : Work σ α} : Delayed next next' → Delayed (.keep next) (.keep next')
  | sever {next next' : Work σ α} : Delayed next next' → Delayed (.sever next) (.sever next')
  | late {w w' : Work σ α} : Delayed w w' → Delayed w (.awaitCancel w')

namespace Delayed

theorem refl (w : Work σ α) : Delayed w w := by
  induction w with
  | done a => exact .done a
  | fail e => exact .fail e
  | breakDown b => exact .breakDown b
  | call c next ih => exact .call ih
  | nest body next ihBody ih => exact .nest ihBody ih
  | draw next ih => exact .draw ih
  | askCancelled next ih => exact .askCancelled ih
  | awaitCancel next ih => exact .awaitCancel ih
  | read next ih => exact .read ih
  | write x next ih => exact .write ih
  | keep next ih => exact .keep ih
  | sever next ih => exact .sever ih

/-- Delays in the parts are delays in the whole. -/
theorem bind {w w' : Work σ α} {f f' : α → Work σ β} (h : Delayed w w')
    (hf : ∀ a, Delayed (f a) (f' a)) : Delayed (w >>= f) (w' >>= f') := by
  change Delayed (w.bind f) (w'.bind f')
  induction h with
  | done a => exact hf a
  | fail e => exact .fail e
  | breakDown b => exact .breakDown b
  | call _ ih => exact .call fun r => ih r hf
  | nest hbody _ _ ih => exact .nest hbody fun r => ih r hf
  | draw _ ih => exact .draw fun u => ih u hf
  | askCancelled _ ih => exact .askCancelled fun b => ih b hf
  | awaitCancel _ ih => exact .awaitCancel (ih hf)
  | read _ ih => exact .read fun x => ih x hf
  | write _ ih => exact .write (ih hf)
  | keep _ ih => exact .keep (ih hf)
  | sever _ ih => exact .sever (ih hf)
  | late _ ih => exact .late (ih hf)

/-- **Delayed work is cancelled in the end, or it runs as if it had been on time.** -/
theorem run {w w' : Work σ α} (h : Delayed w w') (s : Scene σ) :
    (w'.run s).2.cancelled = true ∨ w'.run s = w.run s := by
  induction h generalizing s with
  | done | fail | breakDown => exact .inr rfl
  | call _ ih => exact ih _ _
  | @nest _ _ body body' next next' _ _ ihBody ih =>
    simp only [Work.run]
    rcases ihBody s with hc | he
    · left
      rcases hr : body'.run s with ⟨o, s'⟩
      rw [hr] at hc
      cases o with
      | done b => exact run_cancelled _ hc
      | failed e => exact run_cancelled _ hc
      | brokenDown b => exact hc
    · rw [he]
      rcases body.run s with ⟨o, s'⟩
      cases o with
      | done b => exact ih _ _
      | failed e => exact ih _ _
      | brokenDown b => exact .inr rfl
  | draw _ ih => exact ih _ _
  | askCancelled _ ih => exact ih _ _
  | awaitCancel _ ih => exact ih _
  | read _ ih => exact ih _ _
  | write _ ih => exact ih _
  | keep _ ih => exact ih _
  | sever _ ih => exact ih _
  | @late _ _ w' _ _ =>
    have hexpired : s.expire.cancelled = true := by
      rcases s.expire_cases with ⟨hc, he⟩ | ⟨-, hc, -⟩
      · rw [he]; exact hc
      · exact hc
    exact .inl (run_cancelled w' hexpired)

end Delayed

end Work

end Fleet
