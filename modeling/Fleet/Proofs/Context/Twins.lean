/-
  Fleet/Proofs/Context/Twins.lean
  ===============================
  **The same work on two databases.**

  Databases differ in what a failed statement does to the rest of its transaction, and in the time of
  a call within it.  Work is straight if it can tell neither (`Work.Straight`): it gives up as soon as
  a call fails, and it does not look at the times in the answers.

  Two runs of straight work on databases with the same tables, but for times, go on in lockstep
  (`Work.Straight.run`): each call is answered alike, and leaves tables that are again the same but
  for times, until the work is done on both sides or one and the same call has failed on both.  So an
  execution of it has the same answer and the same effect on either (`Registry.Twins.execute`).  Work
  that gives out times is straight once they are taken from its result, and then it is its answers
  without the times that are the same (`Registry.Twins.execute_map`).
-/
import Fleet.Proofs.Context.Undisturbed
import Fleet.Proofs.Store.Timeless

namespace Fleet

open Fleet.Store

/-! ### Straight work -/

namespace Work

variable {σ α β : Type}

/-- Work that draws identifiers and makes calls, gives up when a call fails, and goes by the answers
    without the times in them. -/
def Straight : Work σ α → Prop
  | done _ | fail _ => True
  | call c next =>
    c.asksOrder = false ∧ (∀ e, ∃ e', next (.error e) = .fail e') ∧
      (∀ a, (next (.ok a)).Straight) ∧
      ∀ a a', c.timeless a = c.timeless a' → next (.ok a) = next (.ok a')
  | draw next => ∀ u, (next u).Straight
  | breakDown _ | nest _ _ | askCancelled _ | awaitCancel _ | read _ | write _ _ | keep _ | sever _ =>
    False

/-- A call whose failure is the failure of the work, and which is gone by without the times in the
    answer. -/
theorem straight_call {c : Call β} {next : Except Error β → Work σ α} (hc : c.asksOrder = false)
    (herror : ∀ e, next (.error e) = .fail e) (hok : ∀ a, (next (.ok a)).Straight)
    (htimes : ∀ a a', c.timeless a = c.timeless a' → next (.ok a) = next (.ok a')) :
    (Work.call c next).Straight :=
  ⟨hc, fun e => ⟨e, herror e⟩, hok, htimes⟩

theorem Straight.bind {w : Work σ α} {f : α → Work σ β} (h : w.Straight)
    (hf : ∀ a, (f a).Straight) : (w >>= f).Straight := by
  change (w.bind f).Straight
  induction w with
  | done a => exact hf a
  | fail e => trivial
  | call c next ih =>
    obtain ⟨hc, herror, hok, htimes⟩ := h
    refine ⟨hc, ?_, fun a => ih _ (hok a) hf, ?_⟩
    · intro e
      obtain ⟨e', he⟩ := herror e
      exact ⟨e', congrArg (·.bind f) he⟩
    · intro a a' ha
      exact congrArg (·.bind f) (htimes a a' ha)
  | draw next ih => exact fun u => ih u (h u) hf
  | breakDown _ | nest _ _ | askCancelled _ | awaitCancel _ | read _ | write _ _ | keep _ | sever _ =>
    cases h

theorem Straight.within {w : Work σ α} (h : w.Straight) (context : String) :
    (w.within context).Straight := by
  induction w with
  | done a => trivial
  | fail e => trivial
  | call c next ih =>
    obtain ⟨hc, herror, hok, htimes⟩ := h
    refine ⟨hc, ?_, fun a => ih _ (hok a), ?_⟩
    · intro e
      obtain ⟨e', he⟩ := herror e
      exact ⟨.within context e', congrArg (·.within context) he⟩
    · intro a a' ha
      exact congrArg (·.within context) (htimes a a' ha)
  | draw next ih => exact fun u => ih u (h u)
  | breakDown _ | nest _ _ | askCancelled _ | awaitCancel _ | read _ | write _ _ | keep _ | sever _ =>
    cases h

/-! ### Twin scenes -/

/-- Two calm scenes that are the same but for the backend and for times. -/
structure Scene.Twins (s s' : Scene σ) : Prop where
  left : s.IsCalm
  right : s'.IsCalm
  view : s.txn.view.timeless = s'.txn.view.timeless
  ids : s.registry.ids = s'.registry.ids
  drawn : s.registry.drawn = s'.registry.drawn

/-- Two runs that have come to the same. -/
inductive Alike : Outcome α × Scene σ → Outcome α × Scene σ → Prop where
  | done {a : α} {s s' : Scene σ} : s.Twins s' → Alike (.done a, s) (.done a, s')
  | failed {e : Error} {s s' : Scene σ} :
      s.cancelled = false → s'.cancelled = false → s.registry.drawn = s'.registry.drawn →
      Alike (.failed e, s) (.failed e, s')

namespace Scene.Twins

variable {s s' : Scene σ}

theorem attempt (h : s.Twins s') {c : Call β} (hc : c.asksOrder = false) :
    (s.attempt c).timeless c = (s'.attempt c).timeless c := by
  rw [Scene.attempt, Scene.attempt, h.left.traps, h.right.traps]
  exact Call.perform_timeless h.left.writable h.right.writable h.view hc

/-- What a call is answered on both sides. -/
theorem reply_cases (h : s.Twins s') {c : Call β} (hc : c.asksOrder = false) :
    (∃ e, (s.attempt c).reply = .error e ∧ (s'.attempt c).reply = .error e) ∨
      ∃ a a', (s.attempt c).reply = .ok a ∧ (s'.attempt c).reply = .ok a' ∧
        c.timeless a = c.timeless a' := by
  have hreply := congrArg Effect.reply (h.attempt hc)
  simp only [Effect.timeless] at hreply
  cases ha : (s.attempt c).reply with
  | error e =>
    cases ha' : (s'.attempt c).reply with
    | error e' =>
      rw [ha, ha'] at hreply
      cases hreply
      exact .inl ⟨e, rfl, rfl⟩
    | ok a' =>
      rw [ha, ha'] at hreply
      cases hreply
  | ok a =>
    cases ha' : (s'.attempt c).reply with
    | error e' =>
      rw [ha, ha'] at hreply
      cases hreply
    | ok a' =>
      rw [ha, ha'] at hreply
      exact .inr ⟨a, a', rfl, rfl, Except.ok.inj hreply⟩

/-- A call that is answered leaves twins. -/
theorem afterCall (h : s.Twins s') {c : Call β} (hc : c.asksOrder = false) {a a' : β}
    (ha : (s.attempt c).reply = .ok a) (ha' : (s'.attempt c).reply = .ok a') :
    (s.afterCall c).Twins (s'.afterCall c) where
  left := h.left.afterCall ha
  right := h.right.afterCall ha'
  view := congrArg Effect.tables (h.attempt hc)
  ids := h.ids
  drawn := h.drawn

theorem draw (h : s.Twins s') : s.draw.2.Twins s'.draw.2 where
  left := h.left.draw
  right := h.right.draw
  view := h.view
  ids := h.ids
  drawn := congrArg (· + 1) h.drawn

end Scene.Twins

/-- **Straight work runs on twins in lockstep.** -/
theorem Straight.run {w : Work σ α} (hw : w.Straight) {s s' : Scene σ} (h : s.Twins s') :
    Alike (w.run s) (w.run s') := by
  induction w generalizing s s' with
  | done a => exact .done h
  | fail e => exact .failed h.left.cancelled h.right.cancelled h.drawn
  | call c next ih =>
    obtain ⟨hc, herror, hok, htimes⟩ := hw
    simp only [Work.run, h.left.call, h.right.call]
    rcases h.reply_cases hc with ⟨e, ha, ha'⟩ | ⟨a, a', ha, ha', htimeless⟩
    · -- one side may be aborted now and the other one not, but neither makes another call
      obtain ⟨e', he⟩ := herror e
      rw [ha, ha', he]
      exact .failed h.left.cancelled h.right.cancelled h.drawn
    · rw [ha, ha', htimes a a' htimeless]
      exact ih _ (hok a') (h.afterCall hc ha ha')
  | draw next ih =>
    have hid : s.draw.1 = s'.draw.1 := by
      simp only [Scene.draw, h.ids, h.drawn]
    simp only [Work.run, hid]
    exact ih _ (hw _) h.draw
  | breakDown _ | nest _ _ | askCancelled _ | awaitCancel _ | read _ | write _ _ | keep _ | sever _ =>
    cases hw

/-- Runs that have come to the same have ended alike, with views that are the same but for times. -/
theorem Alike.exists_ends {x x' : Outcome α × Scene σ} (h : Alike x x') :
    ∃ view view' answer, Ends view answer x ∧ Ends view' answer x' ∧
      (answer.isOk = true → view.timeless = view'.timeless) ∧
      x.2.registry.drawn = x'.2.registry.drawn := by
  cases h with
  | @done a s s' h =>
    refine ⟨s.txn.view, s'.txn.view, .ok a, ?_, ?_, fun _ => h.view, h.drawn⟩
    · exact .done h.left.isLive h.left.doomed rfl
    · exact .done h.right.isLive h.right.doomed rfl
  | @failed e s s' hc hc' hdrawn =>
    exact ⟨s.txn.view, s'.txn.view, .error e, .failed hc, .failed hc', nofun, hdrawn⟩

end Work

/-! ### What is made of a result -/

section

variable {σ α β : Type} (f : α → β) (terms : Terms)

theorem Context.settle_map (o : Outcome α) (s : Work.Scene σ) :
    settle terms (o.map f) s = ((settle terms o s).1.map f, (settle terms o s).2) := by
  unfold settle
  split
  · rfl
  · cases o with
    | done a =>
      simp only [Outcome.map]
      split <;> rfl
    | failed e => rfl
    | brokenDown b => rfl

theorem Registry.answer_map (o : Outcome α) : answer (o.map f) = (answer o).map f := by
  cases o <;> rfl

theorem Registry.execute_map (r : Registry) (w : Work Unit α) :
    r.execute terms (f <$> w) = ((r.execute terms w).1.map f, (r.execute terms w).2) := by
  unfold Registry.execute
  rw [← answer_map]
  unfold Context.execute
  dsimp only
  split
  · rfl
  · rw [Work.run_map, Context.settle_map]

end

/-! ### Twin registries -/

open Fleet.Work

/-- Two calm registries that are the same but for the backend and for times. -/
structure Registry.Twins (r r' : Registry) : Prop where
  left : r.IsCalm
  right : r'.IsCalm
  tables : r.database.tables.timeless = r'.database.tables.timeless
  ids : r.ids = r'.ids
  drawn : r.drawn = r'.drawn

namespace Registry

variable {α : Type} {r r' : Registry}

theorem Twins.starts (h : r.Twins r') {terms : Terms} {s s' : Scene Unit}
    (hs : Context.start? terms r () = some s) (hs' : Context.start? terms r' () = some s')
    (hcalm : s.IsCalm) (hcalm' : s'.IsCalm) : s.Twins s' := by
  have hstart := Context.starts hs
  have hstart' := Context.starts hs'
  refine ⟨hcalm, hcalm', ?_, ?_, ?_⟩
  · rw [hstart.view, hstart'.view]
    exact h.tables
  · rw [hstart.ids, hstart'.ids]
    exact h.ids
  · rw [hstart.drawn, hstart'.drawn]
    exact h.drawn

/-- **Straight work that is executed on twins has the same answer, and leaves twins.** -/
theorem Twins.execute (h : r.Twins r') {w : Work Unit α} (hw : w.Straight) (terms : Terms) :
    (r.execute terms w).1 = (r'.execute terms w).1 ∧
      (r.execute terms w).2.Twins (r'.execute terms w).2 := by
  obtain ⟨s, hs, hcalm⟩ := h.left.exists_start terms
  obtain ⟨s', hs', hcalm'⟩ := h.right.exists_start terms
  have hcontinues := r.continues_execute terms w
  have hcontinues' := r'.continues_execute terms w
  obtain ⟨view, view', answer, hend, hend', hviews, hdrawn⟩ :=
    (hw.run (h.starts hs hs' hcalm hcalm')).exists_ends
  obtain ⟨hanswer, hafter⟩ := execute_of_ends hs hend
  obtain ⟨hanswer', hafter'⟩ := execute_of_ends hs' hend'
  refine ⟨hanswer.trans hanswer'.symm, ?_⟩
  exact {
    left := h.left.continues hcontinues
    right := h.right.continues hcontinues'
    tables := by
      rw [hafter, hafter']
      split
      · rename_i hok
        exact hviews hok
      · exact h.tables
    ids := by
      rw [hcontinues.ids, hcontinues'.ids]
      exact h.ids
    drawn := by
      rw [drawn_execute hs, drawn_execute hs']
      exact hdrawn }

/-- So has work that is straight once something is made of its result, as far as this goes. -/
theorem Twins.execute_map {β : Type} (h : r.Twins r') {w : Work Unit α} {f : α → β}
    (hw : (f <$> w).Straight) (terms : Terms) :
    (r.execute terms w).1.map f = (r'.execute terms w).1.map f ∧
      (r.execute terms w).2.Twins (r'.execute terms w).2 := by
  have hsame := h.execute hw terms
  rwa [Registry.execute_map, Registry.execute_map] at hsame

end Registry

end Fleet
