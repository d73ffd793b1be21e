/-
  Fleet/Proofs/Session/Integrity.lean
  ===================================
  **Tables stay intact all through a session.**

  In a session that starts with a new database, what is committed is intact at any time, and so is
  the view of every transaction (`Session.Holds`), wherever the transaction has got to: the keys
  of clusters are unique, links are unique, and every link leads to a cluster.

  Every call is orderly there (`Orderly`).  One that fails changes nothing, and saving changes
  nothing but the row of the cluster that is saved, which keeps its identifier and its time of
  creation.
-/
import Fleet.Proofs.Session.Steps
import Fleet.Proofs.Store.Integrity

namespace Fleet

open Fleet.Store Fleet.Work

/-! ### Orderly calls -/

/-- Intact tables on which calls are orderly, `act` saying what a call comes to and `taken`
    whether calls are taken at all. -/
structure Store.Orderly (t : Tables) (taken : Prop)
    (act : ∀ {α : Type}, Call α → Except Error α × Tables) : Prop where
  intact : t.Intact
  failed : ∀ {α : Type} (c : Call α) e, (act c).1 = .error e → (act c).2 = t
  /-- It does not matter whether another cluster has the URL. -/
  absent : ∀ c : Cluster, taken → t.row? c.id.render = none →
    (act (.save c)).1 = .error (.notFound .cluster c.id.render)
  links : ∀ c : Cluster, (act (.save c)).2.links = t.links
  spared : ∀ c : Cluster, List.Forall₂ (Tables.Spared c) t.rows (act (.save c)).2.rows

variable {t : Tables} {taken : Prop} {act : ∀ {α : Type}, Call α → Except Error α × Tables}

/-- Calls are orderly if they come to what they come to by themselves, or to nothing. -/
theorem Store.orderly_of_perform (b : Backend) (traps : List Trap) (now : Nat) (ht : t.Intact)
    (hb : b.writable = true)
    (hreply : ∀ {α : Type} (c : Call α), taken → (act c).1 = (c.perform b traps now t).reply)
    (htables : ∀ {α : Type} (c : Call α), (act c).2 = t ∨
      act c = ((c.perform b traps now t).reply, (c.perform b traps now t).tables)) :
    Orderly t taken act where
  intact := ht
  failed c e he := by
    rcases htables c with h | h
    · exact h
    · rw [h] at he ⊢
      exact Call.perform_tables_of_error he
  absent c htaken hnone := (hreply _ htaken).trans (Call.save_absent hb hnone)
  links c := by
    rcases htables (.save c) with h | h
    · rw [h]
    · rw [h]
      exact (Call.spared_save c ht.keyed).1
  spared c := by
    rcases htables (.save c) with h | h
    · rw [h]
      exact List.forall₂_same.2 fun r _ => Tables.Spared.refl c r
    · rw [h]
      exact (Call.spared_save c ht.keyed).2

theorem Store.Database.orderly_call {db : Database} (h : db.tables.Intact)
    (hb : db.backend.writable = true) :
    Orderly db.tables True fun c => ((db.call c).1, (db.call c).2.tables) := by
  refine orderly_of_perform db.backend db.traps (db.clock + 1) h hb (fun c _ => rfl) ?_
  intro α c
  simp only [Database.call]
  split
  · exact .inl rfl
  · exact .inr rfl

theorem Store.Txn.orderly_call {db : Database} {x : Txn} (h : x.view.Intact)
    (hb : db.backend.writable = true) :
    Orderly x.view (x.isClosed = false ∧ x.condition = .running)
      fun c => ((x.call db c).1, (x.call db c).2.2.view) := by
  refine orderly_of_perform db.backend db.traps
    (if db.backend.clockStands then x.began else db.clock + 1) h hb ?_ ?_
  · rintro α c ⟨hopen, hrunning⟩
    simp only [Txn.call, hopen, hrunning, Bool.false_eq_true, if_false]
    rfl
  · intro α c
    unfold Txn.call
    split
    · exact .inl rfl
    · split
      · exact .inl rfl
      · exact .inl rfl
      · exact .inr rfl

/-! ### The transactions of a session -/

namespace Session

/-- The transactions that there are in a session, or that there will be in work which is executed
    next, with the registry as each of them finds it. -/
inductive Holds (s : Session) : Registry → Txn → Prop where
  | opened {x : Txn} : x ∈ s.transactions → Holds s s.registry x
  | left {x : Txn} {c : Bool} : .inTransaction x c ∈ s.contexts → Holds s s.registry x
  | started {σ : Type} {terms : Terms} {y : σ} {t : Scene σ} :
      Context.start? terms s.registry y = some t → Holds s t.registry t.txn
  | running {σ α : Type} {terms : Terms} {w : Work σ α} {y : σ} {ev : Event σ} :
      ev ∈ Context.history terms w s.registry y → Holds s ev.scene.registry ev.scene.txn
  | resumed {σ α : Type} {x : Txn} {c : Bool} {w : Work σ α} {y : σ} {ev : Event σ} :
      .inTransaction x c ∈ s.contexts → ev ∈ w.history ⟨s.registry, x, c, y, false⟩ →
        Holds s ev.scene.registry ev.scene.txn

variable {P : Tables → Prop}
  (hP : ∀ {β : Type} (c : Call β) b traps now t, P t → P (c.perform b traps now t).tables)

include hP

theorem Upholds.holds {s : Session} {b : Backend} (hs : s.Upholds P b) {r : Registry} {x : Txn}
    (h : s.Holds r x) : r.database.backend = b ∧ P x.view := by
  have hrun {σ : Type} {t t' : Scene σ} {es : List (Event σ)} (hpath : Path t es t')
      (hb : t.registry.database.backend = b) (ht : P t.txn.view) {ev : Event σ} (hev : ev ∈ es) :
      ev.scene.registry.database.backend = b ∧ P ev.scene.txn.view :=
    ⟨(hpath.backends.2 ev hev).trans hb, (hpath.keeps_view hP ht).2 ev hev⟩
  have hleft {y : Txn} {c : Bool} (hk : .inTransaction y c ∈ s.contexts) : P y.view := by
    obtain ⟨z, hz, -, hview⟩ := hs.contexts _ hk
    cases hz
    exact hview
  cases h with
  | opened hx => exact ⟨hs.backend, hs.views _ hx⟩
  | left hk => exact ⟨hs.backend, hleft hk⟩
  | started hstart =>
    have hstarts := Context.starts hstart
    exact ⟨hstarts.backend.trans hs.backend, hstarts.view ▸ hs.committed⟩
  | @running _ _ terms w y ev hev =>
    cases hstart : Context.start? terms s.registry y with
    | none => simp [Context.history, hstart] at hev
    | some t =>
      simp only [Context.history, hstart] at hev
      have hstarts := Context.starts hstart
      exact hrun (run_path w t) (hstarts.backend.trans hs.backend)
        (hstarts.view ▸ hs.committed) hev
  | resumed hk hev => exact hrun (run_path _ _) hs.backend (hleft hk) hev

omit hP

/-- **All through a session that starts with a new database, tables are intact and calls are
    orderly**, directly and on every transaction. -/
theorem Reached.orderly {r : Registry} {s : Session} (h : Reached r s)
    (hr : r.database = .create .sqlite) :
    (Orderly s.registry.database.tables True fun c =>
        ((s.registry.call c).1, (s.registry.call c).2.database.tables)) ∧
      ∀ r' x, s.Holds r' x →
        Orderly x.view (x.isClosed = false ∧ x.condition = .running) fun c =>
          ((x.call r'.database c).1, (x.call r'.database c).2.2.view) := by
  have hkeep {β : Type} (c : Call β) (b : Backend) (traps : List Trap) (now : Nat) (t : Tables) :
      t.Intact → (c.perform b traps now t).tables.Intact := Call.intact_perform c
  have hs := h.upholds hkeep (by rw [hr]; exact Tables.intact_empty)
  have hwritable : r.database.backend.writable = true := by rw [hr]; rfl
  constructor
  · exact Database.orderly_call hs.committed (hs.backend ▸ hwritable)
  · intro r' x hx
    obtain ⟨hb, hview⟩ := hs.holds hkeep hx
    exact Txn.orderly_call hview (hb ▸ hwritable)

/-- A session in which a cluster has been created, and is linked in a transaction that is open. -/
def linking : Session :=
  let r := ((Context.blank .sqlite).call (.create (Context.bare "https://a/"))).2
  let x : Txn := { view := r.database.tables, began := 2 }
  let db := { r.database with clock := 2 }.receive ["BEGIN"]
  ⟨{ r with database := (x.call db (.link .nil .nil)).2.1 },
    [(x.call db (.link .nil .nil)).2.2], []⟩

theorem reached_linking : Reached (Context.blank .sqlite) linking :=
  .step (.step (.step .start (.call (.create (Context.bare "https://a/"))))
    (.begin .unset rfl)) (.use [] [] rfl (.call (.link .nil .nil)))

theorem linking_orderly :
    Reached (Context.blank .sqlite) linking ∧
      (linking.transactions.map fun x => (x.view.rows.length, x.view.links.length)) = [(1, 1)] ∧
      (Orderly linking.registry.database.tables True fun c =>
        ((linking.registry.call c).1, (linking.registry.call c).2.database.tables)) ∧
      ∀ r' x, linking.Holds r' x →
        Orderly x.view (x.isClosed = false ∧ x.condition = .running) fun c =>
          ((x.call r'.database c).1, (x.call r'.database c).2.2.view) :=
  ⟨reached_linking, by decide +kernel, reached_linking.orderly rfl⟩

end Session

end Fleet
