/-
  Fleet/Proofs/Session/Chronicles.lean
  ====================================
  **Everything that is read is what was written last.**

  Whatever goes on in a session comes down to what can be done at its database: requests, syncs and
  executions are calls on transactions that begin and end.  So every state of a session that starts
  with a new database has a chronicle in which the transactions of the session have their places
  (`Reached.chronicled`), and while work runs there is one in which its transaction has a place, too
  (`Reached.chronicled_of_holds`).  With what is known of chronicles this settles all reading, in
  sessions and elsewhere (`readings`).
-/
import Fleet.Proofs.Session.Integrity
import Fleet.Proofs.Store.Chronicle

namespace Fleet

open Fleet.Store Fleet.Work

/-! ### Work -/

namespace Work

variable {σ : Type} {xs ys : List (Txn × List Entry)}

/-- The transaction of a scene has its place among those of a chronicle of the database. -/
def Scene.Chronicled (xs ys : List (Txn × List Entry)) (s : Scene σ) : Prop :=
  ∃ log l, Chronicle s.registry.database log (xs ++ (s.txn, l) :: ys)

theorem Step.chronicled {s s' : Scene σ} {act : Act} (h : Step s act s') (hs : s.Chronicled xs ys) :
    s'.Chronicled xs ys := by
  obtain ⟨log, l, hs⟩ := hs
  cases h with
  | @call _ _ c => exact ⟨log, _, hs.callIn c⟩
  | await =>
    unfold Scene.expire
    split
    · exact ⟨log, l, hs⟩
    · exact ⟨log, l, hs.mark.rollback⟩
  | sever => exact ⟨log, l, hs.sever⟩
  | draw | write | keep => exact ⟨log, l, hs⟩

end Work

namespace Context

variable {σ α : Type} {terms : Terms} {w : Work σ α} {r : Registry} {y : σ} {s : Scene σ}
  {log : List Entry} {xs ys : List (Txn × List Entry)}

theorem chronicled_start (hs : start? terms r y = some s) (h : Chronicle r.database log (xs ++ ys)) :
    s.Chronicled xs ys := by
  unfold start? at hs
  cases hbegin : Txn.begin r.database terms.isolation with
  | mk reply db =>
    rw [hbegin] at hs
    cases reply with
    | error e => cases hs
    | ok x =>
      cases hs
      exact ⟨log, log, h.begin terms.isolation hbegin⟩

theorem chronicled_settle (terms : Terms) (o : Outcome α) (hs : s.Chronicled xs ys) :
    ∃ log l, Chronicle (settle terms o s).2.1 log (xs ++ ((settle terms o s).2.2, l) :: ys) := by
  obtain ⟨log, l, hs⟩ := hs
  unfold settle
  split
  · exact ⟨log, l, hs⟩
  · cases o with
    | done a =>
      have hcommit := hs.commit
      dsimp only
      split <;> (rename_i hend; rw [hend] at hcommit; exact ⟨_, l, hcommit⟩)
    | failed e => exact ⟨log, l, hs.rollback⟩
    | brokenDown b => exact ⟨log, l, hs.rollback⟩

theorem chronicled_of_mem_history {ev : Event σ} (hev : ev ∈ history terms w r y)
    (h : Chronicle r.database log (xs ++ ys)) : ev.scene.Chronicled xs ys := by
  unfold history at hev
  cases hstart : start? terms r y with
  | none =>
    rw [hstart] at hev
    cases hev
  | some s =>
    rw [hstart] at hev
    have hkeep := (run_path w s).keeps (P := Scene.Chronicled xs ys) fun _ _ _ => Step.chronicled
    exact (hkeep (chronicled_start hstart h)).2 ev hev

/-- An execution adds its transaction to the chronicle, wherever there is room for it. -/
theorem chronicle_execute (terms : Terms) (w : Work σ α) (y : σ)
    (h : Chronicle r.database log (xs ++ ys)) :
    ∃ log ys', Chronicle (execute terms w r y .idle).registry.database log (xs ++ ys') := by
  cases hstart : start? terms r y with
  | none =>
    obtain ⟨e, -, he⟩ := execute_of_not_start (w := w) hstart
    rw [he]
    exact ⟨log, ys, h⟩
  | some s =>
    have hkeep := (run_path w s).keeps (P := Scene.Chronicled xs ys) fun _ _ _ => Step.chronicled
    obtain ⟨log, l, hend⟩ :=
      chronicled_settle terms (w.run s).1 (hkeep (chronicled_start hstart h)).1
    rw [execute_of_start hstart]
    exact ⟨log, _, hend⟩

end Context

/-! ### Sessions -/

namespace Session

/-- A chronicle of the database of a session, in which the transactions of the session come
    first. -/
def Chronicled (s : Session) : Prop :=
  ∃ log xs ys, Chronicle s.registry.database log (xs ++ ys) ∧ xs.map Prod.fst = s.transactions

variable {r : Registry} {s s' : Session}

theorem Chronicled.execute {σ α : Type} (hs : s.Chronicled) (terms : Terms) (w : Work σ α) (y : σ)
    (contexts : List Context) :
    Chronicled { s with
      registry := (Context.execute terms w s.registry y .idle).registry
      contexts } := by
  obtain ⟨log, xs, ys, hs, hxs⟩ := hs
  obtain ⟨log, ys, h⟩ := Context.chronicle_execute terms w y hs
  exact ⟨log, xs, ys, h, hxs⟩

theorem Chronicled.call {α : Type} (hs : s.Chronicled) (c : Call α) :
    Chronicled { s with registry := (s.registry.call c).2 } := by
  obtain ⟨log, xs, ys, hs, hxs⟩ := hs
  exact ⟨_, xs, ys, hs.call c, hxs⟩

/-- A transaction of the session has its place in the chronicle. -/
theorem Chronicled.at (hs : s.Chronicled) {before after : List Txn} {x : Txn}
    (hx : s.transactions = before ++ x :: after) :
    ∃ log xs l ys zs, Chronicle s.registry.database log (xs ++ (x, l) :: (ys ++ zs)) ∧
      xs.map Prod.fst = before ∧ ys.map Prod.fst = after := by
  obtain ⟨log, all, zs, hs, hall⟩ := hs
  obtain ⟨xs, rest, rfl, hxs, hrest⟩ := List.map_eq_append_iff.1 (hall.trans hx)
  obtain ⟨⟨x, l⟩, ys, rfl, rfl, hys⟩ := List.map_eq_cons_iff.1 hrest
  refine ⟨log, xs, l, ys, zs, ?_, hxs, hys⟩
  simpa using hs

theorem Chronicled.use (hs : s.Chronicled) {before after : List Txn} {x x' : Txn} {db : Database}
    (hx : s.transactions = before ++ x :: after) (huse : x.Use s.registry.database db x') :
    Chronicled { s.setDatabase db with transactions := before ++ x' :: after } := by
  obtain ⟨log, xs, l, ys, zs, hs, rfl, rfl⟩ := hs.at hx
  have hdone : ∃ log l, Chronicle db log (xs ++ (x', l) :: (ys ++ zs)) := by
    cases huse with
    | call c => exact ⟨log, _, hs.callIn c⟩
    | finish e =>
      cases e with
      | commit => exact ⟨_, l, hs.commit⟩
      | rollback => exact ⟨log, l, hs.rollback⟩
    | mark => exact ⟨log, l, hs.mark⟩
    | sever => exact ⟨log, l, hs.sever⟩
  obtain ⟨log, l, hs⟩ := hdone
  refine ⟨log, xs ++ (x', l) :: ys, zs, ?_, ?_⟩
  · simpa [setDatabase] using hs
  · simp

/-- **Whatever goes on in a session can be told by a chronicle.** -/
theorem Step.chronicled {P : Tables → Prop} {b : Backend} (h : Session.Step s s')
    (hupholds : s.Upholds P b) (hs : s.Chronicled) : s'.Chronicled := by
  cases h with
  | call c => exact hs.call c
  | request service who q =>
    rcases service.serve_cases who q s.registry with h | ⟨w, -, h⟩ | ⟨β, c, -, h⟩
    · rw [h]
      exact hs
    · rw [h]
      exact hs.execute service.terms w () s.contexts
    · rw [h]
      exact hs.call c
  | sync terms snapshot => exact hs.execute terms _ () s.contexts
  | execute terms w y => exact hs.execute terms w y _
  | leave terms w y ev hev _ =>
    obtain ⟨log, xs, ys, hs, hxs⟩ := hs
    obtain ⟨log, l, h⟩ := Context.chronicled_of_mem_history hev hs
    exact ⟨log, xs, _, h, hxs⟩
  | @resume _ _ before after k terms w y hcontexts =>
    obtain ⟨log, xs, ys, hs, hxs⟩ := hs
    obtain ⟨x, rfl, hclosed, -⟩ := hupholds.contexts k (by simp [hcontexts])
    obtain ⟨-, hdb, -⟩ := (run_path w ⟨s.registry, x, true, y, false⟩).over ⟨rfl, hclosed⟩
    refine ⟨log, xs, ys, ?_, hxs⟩
    simp only [Session.resume, Context.execute, hdb]
    exact hs
  | @begin level x db hbegin =>
    obtain ⟨log, xs, ys, hs, hxs⟩ := hs
    refine ⟨log, xs ++ [(x, log)], ys, ?_, ?_⟩
    · simpa [setDatabase] using hs.begin level hbegin
    · simp [hxs]
  | use before after hx huse => exact hs.use hx huse
  | trap t =>
    obtain ⟨log, xs, ys, hs, hxs⟩ := hs
    exact ⟨log, xs, ys, hs.trap t, hxs⟩

theorem Reached.chronicled (h : Reached r s) (hr : r.database = .create .sqlite) : s.Chronicled := by
  induction h with
  | start => exact ⟨[], [], [], hr ▸ .create, rfl⟩
  | step hreached hstep ih =>
    exact hstep.chronicled (hreached.tidy hr) ih

/-- **Every transaction that is open in a session, and every one that work is in while it runs, has
    its place in a chronicle.** -/
theorem Reached.chronicled_of_holds (h : Reached r s) (hr : r.database = .create .sqlite)
    {r' : Registry} {x : Txn} (hx : s.Holds r' x) (hopen : x.isClosed = false) :
    ∃ log xs l ys, Chronicle r'.database log (xs ++ (x, l) :: ys) := by
  have hs := h.chronicled hr
  have hleft {y : Txn} {c : Bool} (hk : .inTransaction y c ∈ s.contexts) :
      y.isClosed = true ∧ c = true := by
    obtain ⟨z, hz, hclosed, -⟩ := (h.tidy hr).contexts _ hk
    cases hz
    exact ⟨hclosed, rfl⟩
  cases hx with
  | opened hx =>
    obtain ⟨before, after, htransactions⟩ := List.append_of_mem hx
    obtain ⟨log, xs, l, ys, zs, hs, -⟩ := hs.at htransactions
    exact ⟨log, xs, l, _, hs⟩
  | left hk =>
    rw [(hleft hk).1] at hopen
    cases hopen
  | started hstart =>
    obtain ⟨log, xs, ys, hs, -⟩ := hs
    obtain ⟨log, l, h⟩ := Context.chronicled_start hstart hs
    exact ⟨log, xs, l, ys, h⟩
  | running hev =>
    obtain ⟨log, xs, ys, hs, -⟩ := hs
    obtain ⟨log, l, h⟩ := Context.chronicled_of_mem_history hev hs
    exact ⟨log, xs, l, ys, h⟩
  | @resumed _ _ y c w z ev hk hev =>
    -- whatever is executed there, the transaction stays closed
    obtain ⟨hclosed, rfl⟩ := hleft hk
    have hover := ((run_path w ⟨s.registry, y, true, z, false⟩).keeps (P := Scene.IsOver)
      (fun _ _ _ hstep hs => (hstep.over hs).1) ⟨rfl, hclosed⟩).2 ev hev
    rw [hover.closed] at hopen
    cases hopen

/-- **Everything that is read is what was written last.**  Whatever has a chronicle is read from one
    list of clusters, which agrees with the logs, and everything in a session has one. -/
theorem readings :
    (∀ db log xs, Chronicle db log xs → db.Reads log xs) ∧
      ∀ r s, Reached r s → r.database = .create .sqlite →
        (∃ log xs, Chronicle s.registry.database log xs ∧
          ∀ x ∈ s.transactions, ∃ l, (x, l) ∈ xs) ∧
        ∀ r' x, s.Holds r' x → x.isClosed = false →
          ∃ log xs l, Chronicle r'.database log xs ∧ (x, l) ∈ xs := by
  refine ⟨fun _ _ _ h => h.reads, fun r s h hr => ⟨?_, fun r' x hx hopen => ?_⟩⟩
  · obtain ⟨log, xs, ys, hs, hxs⟩ := h.chronicled hr
    refine ⟨log, xs ++ ys, hs, ?_⟩
    intro x hx
    rw [← hxs, List.mem_map] at hx
    obtain ⟨⟨x, l⟩, hx, rfl⟩ := hx
    exact ⟨l, List.mem_append_left ys hx⟩
  · obtain ⟨log, xs, l, ys, hs⟩ := h.chronicled_of_holds hr hx hopen
    exact ⟨log, _, l, hs, List.mem_append_right xs List.mem_cons_self⟩

/-- What is seen of an answer: the name of the cluster, and its times. -/
def seen (answer : Except Error (Option Registered)) : Option (String × Nat × Nat) :=
  (answer.toOption.bind id).map fun c => (c.name, c.created, c.updated)

/-- A cluster has been created, and is saved with another name in a transaction that is open: it is
    read with that name and the time of this there, and without them directly. -/
theorem readings_renaming :
    (∃ db log x l, Chronicle db log [(x, l)] ∧ x.isClosed = false ∧ x.condition ≠ .lost ∧
      seen (db.call (.load .nil)).1 = some ("", 1, 1) ∧
      seen (x.call db (.load .nil)).1 = some ("a", 1, 3) ∧
      db.tables.Reads log (fun c => (db.call c).1) ∧
      x.view.Reads l fun c => (x.call db c).1) ∧
    ∃ log xs, Chronicle linking.registry.database log xs ∧
      ∀ x ∈ linking.transactions, ∃ l, (x, l) ∈ xs := by
  have hcreated : Chronicle _ _ ([] ++ []) :=
    Chronicle.create.call (.create (Context.bare "https://a/"))
  have hbegun := hcreated.begin .unset rfl
  have h := hbegun.callIn (.save { Context.bare "https://a/" with name := "a" })
  obtain ⟨hreads, hreached⟩ := readings
  have hread := hreads _ _ _ h
  exact ⟨⟨_, _, _, _, h, by decide, by decide, by decide, by decide, hread.direct,
    hread.within _ _ List.mem_cons_self (by decide) (by decide)⟩,
    (hreached _ _ reached_linking rfl).1⟩

end Session

end Fleet
