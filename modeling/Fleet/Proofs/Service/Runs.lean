/-
  Fleet/Proofs/Service/Runs.lean
  ==============================
  **Runs of a registry.**

  A registry serves requests and syncs the snapshots of cluster files, in any order, and what it
  does may fail (`Registry.Step`).  All clusters that it ever writes come from two places: they
  are normal forms of clusters in requests, or they come from definitions in such files.  So what
  holds of these holds of all clusters that are stored (`Registry.Reached.hold`).
-/
import Fleet.Config.Document
import Fleet.Proofs.Context.Execution
import Fleet.Proofs.Service.Requests
import Fleet.Proofs.Work.Calls

namespace Fleet

open Fleet.Store Fleet.Work

/-! ### Runs -/

namespace Registry

/-- What can happen next to a registry to which these cluster files may come. -/
inductive Step (files : String → Prop) (r : Registry) : Registry → Prop where
  | serve (s : Service) (who : Caller) (q : Request α) : Step files r (s.serve who q r).2
  | sync (terms : Terms) {text : String} {s : Snapshot} :
      files text → Config.ofText text = .ok s → Step files r (r.sync terms s).2
  /-- Work is executed that fails, because it takes too long, say. -/
  | fail (terms : Terms) (w : Work Unit α) :
      (∀ a, (r.execute terms w).1 ≠ .ok a) → Step files r (r.execute terms w).2
  | trap (t : Trap) : Step files r { r with database := r.database.setTrap t }

inductive Reached (files : String → Prop) (r : Registry) : Registry → Prop where
  | start : Reached files r r
  | step {r' r'' : Registry} : Reached files r r' → Registry.Step files r' r'' →
      Reached files r r''

end Registry

/-! ### The clusters that are written -/

section

variable {σ : Type} {Q : Cluster → Prop}

theorem Service.makes_saveWork {c : Cluster} (h : ∀ id tokenProvider, Q { c with id, tokenProvider }) :
    (saveWork c : Work σ Registered).Makes (Call.Writes Q) := by
  refine (makes_ask trivial).bind ?_
  rintro (_ | old)
  · dsimp only
    split
    · apply Makes.bind
      · intro _
        trivial
      · intro id
        exact makes_ask (h id _)
    · exact makes_ask (h c.id _)
  · exact makes_ask (h old.id _)

theorem Service.makes_deleteWork {R : ∀ {β : Type}, Call β → Prop} {id : Uuid} (h : R (.delete id)) :
    (deleteWork id : Work σ Unit).Makes R := by
  apply (makes_ask h).bind
  rintro (_ | _) <;> trivial

theorem Service.makes_linkWork {R : ∀ {β : Type}, Call β → Prop} {identity : Uuid} {url : String}
    (ignoreExisting : Bool) (hfind : R (.find url)) (hload : ∀ id, R (.loadLink identity id))
    (hlink : ∀ id, R (.link identity id)) :
    (linkWork identity url ignoreExisting : Work σ Unit).Makes R := by
  apply (makes_ask hfind).bind
  rintro (_ | c)
  · trivial
  · apply (makes_ask (hload c.id)).bind
    rintro (_ | l)
    · exact (makes_ask (hlink c.id)).bind fun _ => trivial
    · cases ignoreExisting <;> trivial

theorem Service.makes_unlinkWork {R : ∀ {β : Type}, Call β → Prop} {identity : Uuid} {url : String}
    (h : R (.unlink identity url)) : (unlinkWork identity url : Work σ Unit).Makes R := by
  apply (makes_ask h).bind
  intro n
  split <;> trivial

/-- The only clusters that a request writes are those that it asks to save. -/
theorem Request.makes {q : Request α} {w : Work Unit α} (hw : q.work? = some (.ok w))
    (h : ∀ c n : Cluster, c.normalize = .ok n → ∀ id tokenProvider, Q { n with id, tokenProvider }) :
    w.Makes (Call.Writes Q) := by
  cases q with
  | save c =>
    simp only [work?, Option.some.injEq] at hw
    cases hn : c.normalize with
    | error e => rw [hn] at hw; cases hw
    | ok n =>
      rw [hn] at hw
      cases hw
      exact Service.makes_saveWork (h c n hn)
  | delete id =>
    cases hw
    exact Service.makes_deleteWork trivial
  | link identity url ignoreExisting =>
    cases hw
    exact Service.makes_linkWork ignoreExisting trivial (fun _ => trivial) fun _ => trivial
  | unlink identity url =>
    cases hw
    exact Service.makes_unlinkWork trivial
  | load _ | find _ | list _ | clustersOf _ => cases hw

namespace Sync

theorem makes_upsert {d : Definition} (h : ∀ id tokenProvider, Q (d.withId id tokenProvider)) :
    (upsert d : Work σ Bool).Makes (Call.Writes Q) := by
  refine (makes_ask trivial).bind ?_
  rintro (_ | c)
  · apply Makes.bind
    · intro _
      trivial
    · intro id
      exact (makes_ask (h id _)).bind fun _ => trivial
  · exact (makes_ask (h c.id _)).bind fun _ => trivial

theorem makes_writeAll {ds : List Definition} (report : SyncReport)
    (h : ∀ d ∈ ds, ∀ id tokenProvider, Q (d.withId id tokenProvider)) :
    (writeAll report ds : Work σ SyncReport).Makes (Call.Writes Q) := by
  induction ds generalizing report with
  | nil => trivial
  | cons d ds ih =>
    obtain ⟨hd, hds⟩ := List.forall_mem_cons.1 h
    refine ((makes_upsert hd).within (describe d)).bind fun created => ?_
    cases created
    · exact ih _ hds
    · exact ih _ hds

end Sync

/-! ### The clusters that are stored -/

/-- What the effects of these calls keep, the execution of work keeps that makes no others. -/
theorem Context.execute_keeps {α : Type} {R : ∀ {β : Type}, Call β → Prop} {P : Tables → Prop}
    (hP : ∀ {β : Type} (c : Call β) (now : Nat) (t : Tables), R c → P t → P (c.effect now t))
    {terms : Terms} {w : Work σ α} {r : Registry} {x : σ} (hw : w.Makes R)
    (hr : P r.database.tables) : P (execute terms w r x .idle).registry.database.tables := by
  by_cases hdone : ∃ a, (execute terms w r x .idle).outcome = .done a
  · obtain ⟨a, hdone⟩ := hdone
    rw [tables_of_done hdone]
    split
    · exact hr
    · refine applyAll_keeps hP hr ?_
      unfold history
      split
      · simp
      · exact hw.history _
  · -- work that is not done leaves nothing behind
    rw [tables_of_not_done fun a ha => hdone ⟨a, ha⟩]
    exact hr

theorem Context.hold_execute {α : Type} {terms : Terms} {w : Work σ α} {r : Registry} {x : σ}
    (hw : w.Makes (Call.Writes Q)) (hr : r.database.tables.Hold Q) :
    (execute terms w r x .idle).registry.database.tables.Hold Q :=
  execute_keeps (fun _ now _ hc ht => ht.effect hc now) hw hr

namespace Registry

variable {files : String → Prop} {r r' : Registry}

theorem tables_call {c : Call β} (hc : c.writes = false) :
    (r.call c).2.database.tables = r.database.tables := by
  have heffect (now : Nat) (t : Tables) : c.effect now t = t := by
    cases c <;> first | rfl | cases hc
  simp only [call, Database.call]
  split
  · rfl
  · cases hr : (c.perform r.database.backend r.database.traps (r.database.clock + 1)
        r.database.tables).reply with
    | ok a => exact (Call.perform_tables_of_ok hr).trans (heffect _ _)
    | error e => exact Call.perform_tables_of_error hr

section

variable
  (hsave : ∀ c n : Cluster, c.normalize = .ok n → ∀ id tokenProvider, Q { n with id, tokenProvider })
  (hsync : ∀ text s, files text → Config.ofText text = .ok s →
    ∀ d ∈ s.definitions, ∀ id tokenProvider, Q (d.withId id tokenProvider))

include hsave hsync

theorem Step.hold (h : Registry.Step files r r') (hr : r.database.tables.Hold Q) :
    r'.database.tables.Hold Q := by
  cases h with
  | serve s who q =>
    rcases s.serve_cases who q r with h | ⟨w, hw, h⟩ | ⟨β, c, hc, h⟩
    · rw [h]; exact hr
    · rw [h]; exact Context.hold_execute (Request.makes hw hsave) hr
    · rw [h, tables_call hc]; exact hr
  | sync terms hfile htext =>
    exact Context.hold_execute (Sync.makes_writeAll _ (hsync _ _ hfile htext)) hr
  | fail terms w hfail =>
    have hnot : ∀ a, (Context.execute terms w r () .idle).outcome ≠ .done a := by
      intro a ha
      exact hfail a (answer_eq_ok.2 ha)
    exact (Context.tables_of_not_done hnot).symm ▸ hr
  | trap t => exact hr

/-- **What holds of all normal forms and of all definitions holds of all clusters that are
    stored.** -/
theorem Reached.hold (h : Reached files r r') (hr : r.database.tables.Hold Q) :
    r'.database.tables.Hold Q := by
  induction h with
  | start => exact hr
  | step _ hstep ih => exact hstep.hold hsave hsync ih

end

end Registry

end

end Fleet
