/-
  Fleet/Proofs/Work/Nesting.lean
  ==============================
  **Work inside work.**

  `Reaches w s v t` says that running `w` from the scene `s` comes to running `v` from the scene
  `t`: there `v` is what is left of `w`, or of work inside of it, at whatever depth.  What `v`
  does there is one stretch of what `w` does (`Reaches.history`).

  Work inside of work is executed on a context that is in the transaction already, and this is
  the same as running it there (`join_eq`).  The outer work goes on with its answer
  (`run_nest_eq`).
-/
import Fleet.Context
import Fleet.Proofs.Work.Transaction

namespace Fleet.Work

open Fleet.Store

variable {σ : Type}

/-- What a unit of work goes on with once work inside of it has ended. -/
def handBack (next : Except Error β → Work σ α) : Outcome β → Work σ α
  | .done b => next (.ok b)
  | .failed e => next (.error e)
  | .brokenDown b => .breakDown b

theorem run_nest_eq (body : Work σ β) (next : Except Error β → Work σ α) (s : Scene σ) :
    (nest body next).run s = (handBack next (body.run s).1).run (body.run s).2 := by
  simp only [run]
  rcases body.run s with ⟨o, s'⟩
  cases o <;> rfl

theorem history_nest_eq (body : Work σ β) (next : Except Error β → Work σ α) (s : Scene σ) :
    (nest body next).history s =
      body.history s ++ (handBack next (body.run s).1).history (body.run s).2 := by
  simp only [history]
  rcases body.run s with ⟨o, s'⟩
  cases o <;> rfl

/-! ### What a unit of work comes to -/

/-- Running one unit of work from a scene comes to running another one from another scene. -/
inductive Reaches {β : Type} (v : Work σ β) (t : Scene σ) : {α : Type} → Work σ α → Scene σ → Prop where
  | here : Reaches v t v t
  | call {c : Call γ} {next : Except Error γ → Work σ α} {s : Scene σ} :
      Reaches v t (next (s.call c).1) (s.call c).2 → Reaches v t (.call c next) s
  | inside {body : Work σ γ} {next : Except Error γ → Work σ α} {s : Scene σ} :
      Reaches v t body s → Reaches v t (.nest body next) s
  | after {body : Work σ γ} {next : Except Error γ → Work σ α} {s : Scene σ} :
      Reaches v t (handBack next (body.run s).1) (body.run s).2 → Reaches v t (.nest body next) s
  | draw {next : Uuid → Work σ α} {s : Scene σ} :
      Reaches v t (next s.draw.1) s.draw.2 → Reaches v t (.draw next) s
  | askCancelled {next : Bool → Work σ α} {s : Scene σ} :
      Reaches v t (next s.cancelled) s → Reaches v t (.askCancelled next) s
  | awaitCancel {next : Work σ α} {s : Scene σ} :
      Reaches v t next s.expire → Reaches v t (.awaitCancel next) s
  | read {next : σ → Work σ α} {s : Scene σ} :
      Reaches v t (next s.scratch) s → Reaches v t (.read next) s
  | write {x : σ} {next : Work σ α} {s : Scene σ} :
      Reaches v t next { s with scratch := x } → Reaches v t (.write x next) s
  | keep {next : Work σ α} {s : Scene σ} :
      Reaches v t next { s with kept := true } → Reaches v t (.keep next) s
  | sever {next : Work σ α} {s : Scene σ} :
      Reaches v t next { s with txn := s.txn.sever } → Reaches v t (.sever next) s

/-- **What work does where it is reached is a stretch of the whole.** -/
theorem Reaches.history {v : Work σ β} {t s : Scene σ} {w : Work σ α} (h : Reaches v t w s) :
    ∃ before after, w.history s = before ++ v.history t ++ after ∧ Path s before t := by
  -- one step at a time: the first event of `w` comes before the stretch, too
  have step {α α' : Type} {w : Work σ α} {w' : Work σ α'} {s s' : Scene σ} {act : Act}
      (hw : w.history s = ⟨act, s'⟩ :: w'.history s') (hstep : Step s act s')
      (ih : ∃ before after, w'.history s' = before ++ v.history t ++ after ∧ Path s' before t) :
      ∃ before after, w.history s = before ++ v.history t ++ after ∧ Path s before t := by
    obtain ⟨before, after, he, hpath⟩ := ih
    exact ⟨⟨act, s'⟩ :: before, after, by rw [hw, he]; rfl, .cons hstep hpath⟩
  induction h with
  | here => exact ⟨[], [], by simp, .nil t⟩
  | @call _ _ c _ s _ ih => exact step rfl (.call s c) ih
  | @inside _ _ body next s _ ih =>
    obtain ⟨before, after, he, hpath⟩ := ih
    exact ⟨before, after ++ _, by rw [history_nest_eq, he, List.append_assoc], hpath⟩
  | @after _ _ body next s _ ih =>
    obtain ⟨before, after, he, hpath⟩ := ih
    refine ⟨body.history s ++ before, after, ?_, (run_path body s).append hpath⟩
    rw [history_nest_eq, he, List.append_assoc, List.append_assoc, List.append_assoc]
  | @draw _ _ s _ ih => exact step rfl (.draw s) ih
  | askCancelled _ ih => exact ih
  | @awaitCancel _ _ s _ ih => exact step rfl (.await s) ih
  | read _ ih => exact ih
  | @write _ x _ s _ ih => exact step rfl (.write s x) ih
  | @keep _ _ s _ ih => exact step rfl (.keep s) ih
  | @sever _ _ s _ ih => exact step rfl (.sever s) ih

/-! ### Joining a transaction -/

def Scene.keepIf (s : Scene σ) (k : Bool) : Scene σ := { s with kept := s.kept || k }

/-- That a context is kept makes no difference to what work does, and is not forgotten. -/
theorem run_keepIf (w : Work σ α) (s : Scene σ) (k : Bool) :
    w.run (s.keepIf k) = ((w.run s).1, (w.run s).2.keepIf k) := by
  induction w generalizing s with
  | done a => rfl
  | fail e => rfl
  | breakDown b => rfl
  | call c next ih =>
    have hcall : (s.keepIf k).call c = ((s.call c).1, (s.call c).2.keepIf k) := by
      simp only [Scene.call, Scene.keepIf]
    simp only [run, hcall]
    exact ih _ _
  | nest body next ihBody ih =>
    simp only [run, ihBody]
    rcases body.run s with ⟨o, s'⟩
    cases o with
    | done b => exact ih _ _
    | failed e => exact ih _ _
    | brokenDown b => rfl
  | draw next ih => exact ih s.draw.1 s.draw.2
  | askCancelled next ih => exact ih _ _
  | awaitCancel next ih =>
    have hexpire : (s.keepIf k).expire = s.expire.keepIf k := by
      cases hc : s.cancelled <;> simp [Scene.expire, Scene.keepIf, hc]
    simp only [run, hexpire]
    exact ih _
  | read next ih => exact ih _ _
  | write x next ih => exact ih { s with scratch := x }
  | keep next ih =>
    have hkept : { s.keepIf k with kept := true } = ({ s with kept := true } : Scene σ).keepIf k := by
      simp [Scene.keepIf]
    simp only [run, hkept]
    exact ih _
  | sever next ih => exact ih { s with txn := s.txn.sever }

def Scene.join (s : Scene σ) (terms : Terms) (w : Work σ α) : Executed σ α :=
  Context.execute terms w s.registry s.scratch (.inTransaction s.txn s.cancelled)

/-- **Joining a transaction is running inside of it**, under whatever terms. -/
theorem join_eq (terms : Terms) (w : Work σ α) (s : Scene σ) :
    (s.join terms w).outcome = (w.run s).1 ∧
      (s.join terms w).context = .inTransaction (w.run s).2.txn (w.run s).2.cancelled ∧
      (s.join terms w).registry = (w.run s).2.registry := by
  -- an execution starts out with a context that is not kept, unlike perhaps the work around it
  have hs : s = Scene.keepIf { s with kept := false } s.kept := by simp [Scene.keepIf]
  have hrun := run_keepIf w { s with kept := false } s.kept
  rw [← hs] at hrun
  rw [hrun]
  exact ⟨rfl, rfl, rfl⟩

end Fleet.Work
