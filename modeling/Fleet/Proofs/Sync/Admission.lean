/-
  Fleet/Proofs/Sync/Admission.lean
  ================================
  **Whether a sync succeeds can be told from the tables before it.**

  A definition is admitted by some tables if nothing keeps it from being written on them, nor the
  transaction from being committed after that (`Admits`).  The definitions of a snapshot have
  different URLs, so writing one of them does not change whether another one is admitted
  (`Admits.congr`).  As long as there are fresh identifiers, a sync therefore succeeds exactly if a
  transaction begins and the tables admit every definition (`sync_ok_iff`).
-/
import Fleet.Proofs.Service.Placement
import Fleet.Proofs.Sync.AllOrNothing

namespace Fleet.Sync

open Fleet.Store Fleet.Work

variable {σ : Type} {b : Backend} {traps : List Trap} {t t' : Tables} {d : Definition}

/-- Nothing keeps a definition from being written on these tables, and committed. -/
structure Admits (b : Backend) (traps : List Trap) (t : Tables) (d : Definition) : Prop where
  writable : b.writable = true
  renew : ∀ row, t.rowAt? d.url = some row → row.IsSound ∧ sprung? traps .update d.name = none
  make : t.rowAt? d.url = none →
    sprung? traps .insert d.name = none ∧ sprung? traps .commit d.name = none

/-- Whether a definition is admitted depends on the row at its URL only. -/
theorem Admits.congr (h : t'.rowAt? d.url = t.rowAt? d.url) (hd : Admits b traps t d) :
    Admits b traps t' d :=
  ⟨hd.writable, h ▸ hd.renew, h ▸ hd.make⟩

/-! ### One definition -/

/-- A run that has been through, in a transaction that can be committed. -/
def Passes {α : Type} (x : Outcome α × Scene σ) : Prop :=
  ∃ a s', x = (.done a, s') ∧ s'.txn.doomed = false

section

variable {s : Scene σ}

/-- Only a row that holds a cluster can be overwritten. -/
theorem isSound_of_upsert {isNew : Bool} {s' : Scene σ} {row : Row}
    (h : (upsert d).run s = (.done isNew, s')) (hrow : s.txn.view.rowAt? d.url = some row) :
    row.IsSound := by
  rw [upsert_eq] at h
  simp only [run] at h
  cases hfind : (s.call (.find d.url)).1 with
  | error e =>
    rw [hfind] at h
    cases h
  | ok found =>
    rw [call_find (Scene.call_of_ok hfind).1, hrow, Call.decode?] at h
    cases hc : row.decode with
    | error e =>
      rw [hc] at h
      cases h
    | ok c =>
      simp only [hc, Except.map, run] at h
      cases hsave : ((tick s).call (.save (sameCluster d c))).1 with
      | error e =>
        rw [hsave] at h
        cases h
      | ok a => exact Row.isSound_of_decode hc (render_of_save hrow hsave)

/-- A definition is admitted exactly if nothing is in the way of its placement. -/
theorem admits_iff (hsound : ∀ row, s.txn.view.rowAt? d.url = some row → row.IsSound)
    (hfree : s.txn.view.rowAt? d.url = none →
      ∀ r ∈ s.txn.view.rows, r.id ≠ (s.registry.ids s.registry.drawn).render) :
    Admits s.registry.database.backend s.registry.database.traps s.txn.view d ↔
      (Placement.ofDefinition d).PermittedIn s ∧
        (Placement.ofDefinition d).isDoomed s.registry.database.traps s.txn.view = false := by
  have hurl : (Placement.ofDefinition d).definition.url = d.url := rfl
  have hname : (Placement.ofDefinition d).definition.name = d.name := rfl
  constructor
  · rintro ⟨hwritable, hrenew, hmake⟩
    refine ⟨⟨hwritable, ?_, ?_⟩, ?_⟩
    · intro hsome
      obtain ⟨row, hrow⟩ := Option.ne_none_iff_exists'.1 hsome
      exact (hrenew row hrow).2
    · intro hnone
      exact ⟨(hmake hnone).1, hfree hnone⟩
    · unfold Placement.isDoomed
      rw [hurl, hname]
      cases hrow : s.txn.view.rowAt? d.url with
      | none => rw [(hmake hrow).2]; rfl
      | some row => rfl
  · rintro ⟨⟨hwritable, hupdate, hinsert⟩, hdoomed⟩
    refine ⟨hwritable, ?_, ?_⟩
    · intro row hrow
      refine ⟨hsound row hrow, hupdate ?_⟩
      rw [hurl, hrow]
      exact Option.some_ne_none row
    · intro hnone
      refine ⟨(hinsert hnone).1, ?_⟩
      unfold Placement.isDoomed at hdoomed
      rw [hurl, hname, hnone] at hdoomed
      simpa using hdoomed

theorem passes_iff_of_fares {α : Type} {p : Placement} {w : Work σ α} (h : p.Fares w s) :
    Passes (w.run s) ↔ s.txn.doomed = false ∧ p.PermittedIn s ∧
      p.isDoomed s.registry.database.traps s.txn.view = false := by
  cases h with
  | @done a s' hpermitted hrun hcompletes =>
    have hdoomed := hcompletes.doomed
    constructor
    · rintro ⟨a, s'', hdone, hfate⟩
      rw [hrun] at hdone
      cases hdone
      rw [hfate, eq_comm, Bool.or_eq_false_iff] at hdoomed
      exact ⟨hdoomed.1, hpermitted, hdoomed.2⟩
    · rintro ⟨hbefore, -, hfate⟩
      refine ⟨a, s', hrun, ?_⟩
      rw [hdoomed, hbefore, hfate]
      rfl
  | @failed e s' hnot hrun =>
    constructor
    · rintro ⟨a, s'', hdone, -⟩
      rw [hrun] at hdone
      cases hdone
    · rintro ⟨-, hpermitted, -⟩
      exact absurd hpermitted hnot

/-- **A definition is written exactly if it is admitted**, when an identifier is free for it. -/
theorem passes_upsert_iff (hlive : s.IsLive) (hk : s.txn.view.Keyed)
    (hfree : s.txn.view.rowAt? d.url = none →
      ∀ r ∈ s.txn.view.rows, r.id ≠ (s.registry.ids s.registry.drawn).render) :
    Passes ((upsert d).run s) ↔ s.txn.doomed = false ∧
      Admits s.registry.database.backend s.registry.database.traps s.txn.view d := by
  have hplaced : (∀ row, s.txn.view.rowAt? d.url = some row → row.IsSound) →
      (Passes ((upsert d).run s) ↔ s.txn.doomed = false ∧
        Admits s.registry.database.backend s.registry.database.traps s.txn.view d) := by
    intro hsound
    rw [admits_iff hsound hfree, upsert_eq_work]
    apply passes_iff_of_fares
    cases hrow : s.txn.view.rowAt? d.url with
    | none => exact Placement.fares_make hlive hrow
    | some row => exact Placement.fares_renew hlive hk (hsound row hrow) hrow
  constructor
  · rintro ⟨isNew, s', hrun, hfate⟩
    exact (hplaced fun row hrow => isSound_of_upsert hrun hrow).1 ⟨isNew, s', hrun, hfate⟩
  · rintro ⟨hdoomed, hadmits⟩
    exact (hplaced fun row hrow => (hadmits.renew row hrow).1).2 ⟨hdoomed, hadmits⟩

end

/-! ### One definition after another -/

/-- **Definitions are written exactly if all of them are admitted from the beginning.** -/
theorem passes_writeAll_iff {ds : List Definition} (rep : SyncReport) {s : Scene σ}
    (hlive : s.IsLive) (hk : s.txn.view.Keyed) (hds : ds.Pairwise fun a b => a.url ≠ b.url)
    (hfresh : HasFresh s.registry.ids s.registry.drawn (absent s.txn.view ds) s.txn.view) :
    Passes ((writeAll rep ds).run s) ↔ s.txn.doomed = false ∧ ∀ d ∈ ds,
      Admits s.registry.database.backend s.registry.database.traps s.txn.view d := by
  induction ds generalizing rep s with
  | nil =>
    constructor
    · rintro ⟨rep', s', hrun, hfate⟩
      cases hrun
      exact ⟨hfate, by simp⟩
    · rintro ⟨hdoomed, -⟩
      exact ⟨rep, s, rfl, hdoomed⟩
  | cons d ds ih =>
    obtain ⟨hd, hds⟩ := List.pairwise_cons.1 hds
    rw [absent_cons] at hfresh
    rw [List.forall_mem_cons, ← and_assoc, ← passes_upsert_iff hlive hk hfresh.free_first]
    rcases upsert_cases d s with ⟨why, s₁, hrun, -⟩ | ⟨s₁, hrun, hlive₁, hids, hdrawn, hup⟩
    · simp [Passes, run_writeAll_cons, hrun]
    · have hup := hup hk
      have hpath := run_path (upsert d) s
      rw [hrun] at hpath
      have hfresh₁ : HasFresh s₁.registry.ids s₁.registry.drawn (absent s₁.txn.view ds)
          s₁.txn.view := by
        rw [hids, hdrawn, hup.absent hd]
        exact hfresh.upserted hup
      have hothers : ∀ e ∈ ds, s₁.txn.view.rowAt? e.url = s.txn.view.rowAt? e.url := by
        intro e he
        rw [← Tables.head?_rowsAt, hup.rowsAt (hd e he), Tables.head?_rowsAt]
      rw [run_writeAll_cons, hrun]
      refine (ih _ hlive₁ hup.keyed hds hfresh₁).trans (and_congr ?_ (forall₂_congr ?_))
      · simp [Passes]
      · intro e he
        rw [hpath.backend, hpath.traps]
        exact ⟨.congr (hothers e he).symm, .congr (hothers e he)⟩

/-! ### In a transaction of its own -/

variable {terms : Terms} {r : Registry} {x : Snapshot}

/-- Work in a transaction of its own that stays live if it is done is answered exactly if it passes. -/
theorem execute_ok_iff_passes {α : Type} {w : Work Unit α} {s : Scene Unit}
    (hs : Context.start? terms r () = some s)
    (hlive : ∀ a s', w.run s = (.done a, s') → s'.IsLive) :
    (∃ a r', r.execute terms w = (.ok a, r')) ↔ Passes (w.run s) := by
  constructor
  · rintro ⟨a, r', hexecute⟩
    have hdone := Registry.answer_eq_ok.1 (congrArg Prod.fst hexecute)
    obtain ⟨s', hrun⟩ : ∃ s', w.run s = (.done a, s') := by
      rw [Context.execute_of_start hs] at hdone
      exact ⟨_, Prod.ext (Context.settle_done hdone).1 rfl⟩
    refine ⟨a, s', hrun, ?_⟩
    by_contra hdoomed
    exact Context.not_done_of_doomed hs hrun (hlive a s' hrun) (by simpa using hdoomed) a hdone
  · rintro ⟨a, s', hrun, hfate⟩
    obtain ⟨hdone, -⟩ := Context.execute_of_run_done hs hrun (hlive a s' hrun) hfate
    exact ⟨a, _, Prod.ext (Registry.answer_eq_ok.2 hdone) rfl⟩

/-- **A sync succeeds exactly if a transaction begins and every definition is admitted.** -/
theorem sync_ok_iff (hk : r.database.tables.Keyed)
    (hfresh : HasFresh r.ids r.drawn (absent r.database.tables x.definitions) r.database.tables) :
    (∃ rep r', r.sync terms x = (.ok rep, r')) ↔
      r.database.traps.find? (·.point = .start) = none ∧ ∀ d ∈ x.definitions,
        Admits r.database.backend r.database.traps r.database.tables d := by
  cases hs : Context.start? terms r () with
  | none =>
    obtain ⟨e, -, he⟩ := Context.execute_of_not_start (w := work x) hs
    constructor
    · rintro ⟨rep, r', hsync⟩
      have hdone := Registry.answer_eq_ok.1 (congrArg Prod.fst hsync)
      rw [he] at hdone
      cases hdone
    · rintro ⟨hstart, -⟩
      exact absurd hstart (Context.start?_eq_none_iff.1 hs)
  | some s =>
    have hstart := Context.starts hs
    have hstarted : r.database.traps.find? (·.point = .start) = none := by
      by_contra htrap
      rw [Context.start?_eq_none_iff.2 htrap] at hs
      cases hs
    have hfresh : HasFresh s.registry.ids s.registry.drawn (absent s.txn.view x.definitions)
        s.txn.view := by
      rw [hstart.ids, hstart.drawn, hstart.view]
      exact hfresh
    have hpasses := passes_writeAll_iff ⟨0, 0⟩ hstart.isLive (hstart.view ▸ hk) (urls_ne x) hfresh
    rw [hstart.backend, hstart.traps, hstart.view] at hpasses
    have hadmits : (∀ d ∈ x.definitions,
        Admits r.database.backend r.database.traps r.database.tables d) ↔
          Passes ((work x).run s) := by
      rw [work, hpasses, and_iff_right hstart.doomed]
    rw [and_iff_right hstarted, hadmits]
    apply execute_ok_iff_passes hs
    intro rep s' hrun
    exact (writeAll_done hrun (hstart.view ▸ hk) (urls_ne x)).isLive hstart.isLive

end Fleet.Sync
