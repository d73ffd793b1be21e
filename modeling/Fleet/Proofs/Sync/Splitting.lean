/-
  Fleet/Proofs/Sync/Splitting.lean
  ================================
  **It does not matter how definitions are split into snapshots, and in which order they come.**

  A sync touches the rows at the URLs of its snapshot only, and leaves all identifiers.  So
  snapshots with different URLs that are synced one after another leave what one sync of all their
  definitions would have left (`Synced.append`), and each counts what it would have counted if it
  had come first (`absent_of_synced`).  In what order the definitions come makes no difference to
  `Synced` at all.

  What does depend on the order is which identifier a new row draws, and it may have become the
  token provider of the row.  So two courses over the same definitions end in renamings of each
  other (`Course.renamed`).
-/
import Fleet.Proofs.Sync.Renaming
import Fleet.Proofs.Config.RoundTrip

namespace Fleet.Sync

open Fleet.Store

variable {fresh : Uuid → Prop} {t m t' : Tables} {ds es : List Definition}

/-! ### One part after another -/

/-- A sync leaves all identifiers. -/
theorem Synced.ids_kept (h : Synced fresh ds t t') {q : Row} (hq : q ∈ t.rows) :
    ∃ row ∈ t'.rows, row.id = q.id := by
  by_cases hurl : q.url ∈ ds.map (·.url)
  · obtain ⟨d, hd, hdurl⟩ := List.mem_map.1 hurl
    have hin : q ∈ t.rowsAt d.url := Tables.mem_rowsAt.2 ⟨hq, hdurl.symm⟩
    cases h.written d hd with
    | @overwritten old row hold hrow hcarries hid =>
      rw [hold, List.mem_singleton] at hin
      have hmem : row ∈ t'.rowsAt d.url := by
        rw [hrow]
        exact List.mem_singleton_self row
      exact ⟨row, (Tables.mem_rowsAt.1 hmem).1, by rw [hid, hin]⟩
    | created hnone =>
      rw [hnone] at hin
      cases hin
  · have hmem : q ∈ t'.rowsAt q.url := by
      rw [h.rowsAt_elsewhere hurl]
      exact Tables.mem_rowsAt.2 ⟨hq, rfl⟩
    exact ⟨q, (Tables.mem_rowsAt.1 hmem).1, rfl⟩

section Parts

variable (hdisjoint : ∀ d ∈ ds, ∀ e ∈ es, d.url ≠ e.url)

include hdisjoint

/-- Syncing some definitions does not touch the rows of the others. -/
theorem Synced.rowsAt_of_disjoint (h : Synced fresh ds t m) {e : Definition} (he : e ∈ es) :
    m.rowsAt e.url = t.rowsAt e.url := by
  apply h.rowsAt_elsewhere
  intro hurl
  obtain ⟨d, hd, hdurl⟩ := List.mem_map.1 hurl
  exact hdisjoint d hd e he hdurl

theorem absent_of_synced (h : Synced fresh ds t m) : absent m es = absent t es :=
  List.countP_congr fun e he => by rw [h.rowsAt_of_disjoint hdisjoint he]

/-- **What two syncs leave is what one sync of all the definitions would have left.** -/
theorem Synced.append (h : Synced fresh ds t m) (h' : Synced fresh es m t') :
    Synced fresh (ds ++ es) t t' where
  written d hd := by
    rcases List.mem_append.1 hd with hd | hd
    · have hafter : t'.rowsAt d.url = m.rowsAt d.url := by
        apply h'.rowsAt_elsewhere
        intro hurl
        obtain ⟨e, he, heurl⟩ := List.mem_map.1 hurl
        exact hdisjoint d hd e he heurl.symm
      exact (h.written d hd).transfer rfl hafter (fun q hq => ⟨q, hq, rfl⟩) fun _ _ hu => hu
    · exact (h'.written d hd).transfer (h.rowsAt_of_disjoint hdisjoint hd) rfl
        (fun q hq => h.ids_kept hq) fun _ _ hu => hu
  elsewhere := by
    have hboth : ∀ {ds' : List Definition}, (∀ d ∈ ds', d ∈ ds ++ es) →
        ∀ u ∈ ds'.map (·.url), decide (u ∉ (ds ++ es).map (·.url)) = false := by
      intro ds' hsub u hu
      obtain ⟨d, hd, rfl⟩ := List.mem_map.1 hu
      exact decide_eq_false fun hnot => hnot (List.mem_map_of_mem (hsub d hd))
    have hfirst := filter_of_away h.elsewhere
      (P := fun u => decide (u ∉ (ds ++ es).map (·.url))) (hboth fun d hd => List.mem_append_left _ hd)
    have hlast := filter_of_away h'.elsewhere
      (P := fun u => decide (u ∉ (ds ++ es).map (·.url))) (hboth fun d hd => List.mem_append_right _ hd)
    exact hlast.trans hfirst
  links := h'.links.trans h.links
  keyed := h'.keyed

end Parts

/-- The order of the definitions does not matter. -/
theorem Synced.perm (h : Synced fresh ds t t') (hperm : ds.Perm es) : Synced fresh es t t' where
  written d hd := h.written d (hperm.mem_iff.2 hd)
  elsewhere := by
    have haway : ∀ t : Tables, t.away (es.map (·.url)) = t.away (ds.map (·.url)) := by
      intro t
      refine List.filter_congr fun row _ => ?_
      exact decide_eq_decide.2 (not_congr (hperm.map (·.url)).mem_iff.symm)
    rw [haway, haway, h.elsewhere]
  links := h.links
  keyed := h.keyed

/-! ### Courses of syncs -/

/-- Snapshots that are synced one after another, all with success, and what the reports come to. -/
inductive Course : Registry → List (Terms × Snapshot) → SyncReport → Registry → Prop where
  | nil (r : Registry) : Course r [] ⟨0, 0⟩ r
  | cons {r m r' : Registry} {terms : Terms} {s : Snapshot} {plan : List (Terms × Snapshot)}
      {rep total : SyncReport} :
      r.sync terms s = (.ok rep, m) → Course m plan total r' →
      Course r ((terms, s) :: plan) ⟨rep.created + total.created, rep.updated + total.updated⟩ r'

def definitionsOf (plan : List (Terms × Snapshot)) : List Definition :=
  plan.flatMap (·.2.definitions)

/-- Nothing stands in the way of writing these definitions: there are no faults, the rows in their
    places can be read, they have different URLs, and new identifiers enough for all of them. -/
structure Ready (r : Registry) (ds : List Definition) (new : Uuid → Prop) : Prop where
  keyed : r.database.tables.Keyed
  faultless : r.database.traps = []
  writable : r.database.backend.writable = true
  sound : ∀ d ∈ ds, ∀ row ∈ r.database.tables.rows, row.url = d.url → row.IsSound
  different : ds.Pairwise fun a b => a.url ≠ b.url
  supplies : r.Supplies ds.length new

variable {r r' r₁ r₂ : Registry} {new : Uuid → Prop} {terms : Terms} {s : Snapshot}
  {plan plan' : List (Terms × Snapshot)} {rep total total' : SyncReport}

theorem Ready.perm (h : Ready r ds new) (hperm : ds.Perm es) : Ready r es new where
  keyed := h.keyed
  faultless := h.faultless
  writable := h.writable
  sound d hd := h.sound d (hperm.mem_iff.2 hd)
  different := (hperm.pairwise_iff fun hab => Ne.symm hab).1 h.different
  supplies := hperm.length_eq ▸ h.supplies

section Step

variable (h : Ready r (s.definitions ++ ds) new)

include h

theorem Ready.disjoint : ∀ d ∈ s.definitions, ∀ e ∈ ds, d.url ≠ e.url :=
  (List.pairwise_append.1 h.different).2.2

theorem Ready.supplies_step : r.Supplies (s.size + ds.length) new := by
  have hsupplies := h.supplies
  rwa [List.length_append] at hsupplies

/-- If nothing stands in the way, a snapshot is synced. -/
theorem Ready.sync_succeeds (terms : Terms) : ∃ rep m, r.sync terms s = (.ok rep, m) :=
  Sync.sync_succeeds h.keyed h.faultless h.writable
    (fun d hd => h.sound d (List.mem_append_left _ hd))
    (h.supplies_step.fresh.mono (Nat.le_add_right _ _))

/-- After a snapshot has been synced nothing stands in the way of the other definitions. -/
theorem Ready.after_sync (hsync : r.sync terms s = (.ok rep, r')) : Ready r' ds new := by
  have hsynced := h.supplies_step.synced h.keyed hsync
  have hcontinues := r.continues_execute terms (work s)
  have hsupplies := h.supplies_step.sync h.keyed terms
  rw [Registry.sync] at hsync
  rw [Registry.sync, hsync] at hsupplies
  rw [hsync] at hcontinues
  refine ⟨hsynced.keyed, hcontinues.traps.trans h.faultless, hcontinues.backend ▸ h.writable, ?_,
    (List.pairwise_append.1 h.different).2.1, hsupplies⟩
  intro e he row hrow hurl
  have hin : row ∈ r'.database.tables.rowsAt e.url := Tables.mem_rowsAt.2 ⟨hrow, hurl⟩
  rw [hsynced.rowsAt_of_disjoint h.disjoint he] at hin
  exact h.sound e (List.mem_append_right _ he) row (Tables.mem_rowsAt.1 hin).1 hurl

end Step

/-- If nothing stands in the way, all snapshots are synced. -/
theorem Ready.exists_course (h : Ready r (definitionsOf plan) new) :
    ∃ total r', Course r plan total r' := by
  induction plan generalizing r with
  | nil => exact ⟨_, _, .nil r⟩
  | cons p plan ih =>
    obtain ⟨terms, s⟩ := p
    obtain ⟨rep, m, hsync⟩ := Ready.sync_succeeds h terms
    obtain ⟨total, r', hcourse⟩ := ih (h.after_sync hsync)
    exact ⟨_, r', .cons hsync hcourse⟩

/-- **A course leaves what one sync of all its definitions would have left**, and counts what that
    would have counted. -/
theorem Course.synced (hcourse : Course r plan total r') (h : Ready r (definitionsOf plan) new) :
    Synced new (definitionsOf plan) r.database.tables r'.database.tables ∧
      total.created = absent r.database.tables (definitionsOf plan) ∧
      total.created + total.updated = (definitionsOf plan).length := by
  induction hcourse with
  | nil r => exact ⟨⟨by simp [definitionsOf], rfl, rfl, h.keyed⟩, rfl, rfl⟩
  | @cons r m r' terms s plan rep total hsync hcourse ih =>
    have h : Ready r (s.definitions ++ definitionsOf plan) new := h
    have hsynced := h.supplies_step.synced h.keyed hsync
    obtain ⟨-, hcreated, htotal⟩ := synced_of_ok h.keyed (.refl _) hsync
    obtain ⟨hrest, hrestCreated, hrestTotal⟩ := ih (h.after_sync hsync)
    refine ⟨hsynced.append h.disjoint hrest, ?_, ?_⟩
    · rw [hcreated, hrestCreated, absent_of_synced h.disjoint hsynced]
      exact List.countP_append.symm
    · have hlength : (definitionsOf ((terms, s) :: plan)).length =
          s.size + (definitionsOf plan).length := List.length_append
      rw [hlength]
      dsimp only
      omega

/-- **Two courses over the same definitions end alike**, but for times and the names of new
    identifiers, and their reports come to the same. -/
theorem Course.renamed (h₁ : Course r plan total r₁) (h₂ : Course r plan' total' r₂)
    (hperm : (definitionsOf plan).Perm (definitionsOf plan'))
    (h : Ready r (definitionsOf plan) new) :
    r₁.database.tables.Renamed new new r₂.database.tables ∧ total = total' := by
  obtain ⟨hsynced, hcreated, htotal⟩ := h₁.synced h
  obtain ⟨hsynced', hcreated', htotal'⟩ := h₂.synced (h.perm hperm)
  refine ⟨(hsynced.perm hperm).renamed hsynced' (.refl new new _), ?_⟩
  have hcount : total.created = total'.created := by
    rw [hcreated, hcreated']
    exact hperm.countP_eq _
  have hsum := hperm.length_eq
  cases total
  cases total'
  simp only at hcount htotal htotal'
  simp only [SyncReport.mk.injEq]
  omega

/-! ### Two snapshots and both in one -/

/-- One of the next identifiers that a registry draws. -/
def Coming (r : Registry) (n : Nat) (id : Uuid) : Prop :=
  ∃ k, r.drawn ≤ k ∧ k < r.drawn + n ∧ id = r.ids k

/-- The registries have the same rows and links, but for times and for the names of identifiers
    that `r` has not drawn yet. -/
def EndAlike (r : Registry) (n : Nat) (r₁ r₂ : Registry) : Prop :=
  r₁.database.tables.Renamed (Coming r n) (Coming r n) r₂.database.tables

theorem ready_of_parts {s₁ s₂ : Snapshot} (hk : r.database.tables.Keyed)
    (hfaultless : r.database.traps = []) (hwritable : r.database.backend.writable = true)
    (hsound : ∀ d ∈ s₁.definitions ++ s₂.definitions, ∀ row ∈ r.database.tables.rows,
      row.url = d.url → row.IsSound)
    (hfresh : HasFresh r.ids r.drawn (s₁.size + s₂.size) r.database.tables)
    (hdisjoint : ∀ d ∈ s₁.definitions, ∀ e ∈ s₂.definitions, d.url ≠ e.url) :
    Ready r (s₁.definitions ++ s₂.definitions) (Coming r (s₁.size + s₂.size)) where
  keyed := hk
  faultless := hfaultless
  writable := hwritable
  sound := hsound
  different := List.pairwise_append.2 ⟨urls_ne s₁, urls_ne s₂, hdisjoint⟩
  supplies := by
    rw [List.length_append]
    exact ⟨fun k hk hlt => ⟨k, hk, hlt, rfl⟩, hfresh⟩

/-- **Syncing two snapshots one after the other, in either order, and syncing both in one snapshot
    all come to the same.**  There are no faults, and the snapshots have no URL in common. -/
theorem sync_of_splitting {s₁ s₂ : Snapshot} (hk : r.database.tables.Keyed)
    (hfaultless : r.database.traps = []) (hwritable : r.database.backend.writable = true)
    (hsound : ∀ d ∈ s₁.definitions ++ s₂.definitions, ∀ row ∈ r.database.tables.rows,
      row.url = d.url → row.IsSound)
    (hfresh : HasFresh r.ids r.drawn (s₁.size + s₂.size) r.database.tables)
    (hdisjoint : ∀ d ∈ s₁.definitions, ∀ e ∈ s₂.definitions, d.url ≠ e.url)
    (hds : ds.Perm (s₁.definitions ++ s₂.definitions)) (a b c d e : Terms) :
    ∃ total r₁ r₂ r₃, Course r [(a, s₁), (b, s₂)] total r₁ ∧ Course r [(c, s₂), (d, s₁)] total r₂ ∧
      Course r [(e, Snapshot.ofList ds)] total r₃ ∧
      EndAlike r (s₁.size + s₂.size) r₁ r₂ ∧ EndAlike r (s₁.size + s₂.size) r₁ r₃ ∧
      EndAlike r (s₁.size + s₂.size) r₂ r₃ := by
  have hready := ready_of_parts hk hfaultless hwritable hsound hfresh hdisjoint
  have hone : definitionsOf [(a, s₁), (b, s₂)] = s₁.definitions ++ s₂.definitions := by
    simp [definitionsOf]
  have htwo : (definitionsOf [(a, s₁), (b, s₂)]).Perm (definitionsOf [(c, s₂), (d, s₁)]) := by
    simpa [definitionsOf] using List.perm_append_comm
  have hthree : (definitionsOf [(a, s₁), (b, s₂)]).Perm (definitionsOf [(e, Snapshot.ofList ds)]) := by
    have hurls : (ds.map (·.url)).Nodup := by
      apply List.pairwise_map.2
      exact (hds.pairwise_iff fun hab => Ne.symm hab).2 hready.different
    simpa [definitionsOf] using ((Snapshot.ofList_perm hurls).trans hds).symm
  rw [← hone] at hready
  obtain ⟨total, r₁, h₁⟩ := hready.exists_course
  obtain ⟨total₂, r₂, h₂⟩ := (hready.perm htwo).exists_course
  obtain ⟨total₃, r₃, h₃⟩ := (hready.perm hthree).exists_course
  obtain ⟨halike₂, rfl⟩ := h₁.renamed h₂ htwo hready
  obtain ⟨halike₃, rfl⟩ := h₁.renamed h₃ hthree hready
  obtain ⟨halike, -⟩ := h₂.renamed h₃ (htwo.symm.trans hthree) (hready.perm htwo)
  exact ⟨total, r₁, r₂, r₃, h₁, h₂, h₃, halike₂, halike₃, halike⟩

def apart (url : String) : Definition := (Context.bare url).toDefinition

/-- Two clusters that take their identifiers for their token providers, apart and together. -/
theorem sync_of_splitting_blank :
    HasFresh (Context.blank .sqlite).ids (Context.blank .sqlite).drawn 2
        (Context.blank .sqlite).database.tables ∧
      ∃ total r₁ r₂ r₃,
        Course (Context.blank .sqlite) [(Context.halfMinute, .ofList [apart "https://a/"]),
          (Context.halfMinute, .ofList [apart "https://b/"])] total r₁ ∧
        Course (Context.blank .sqlite) [(Context.halfMinute, .ofList [apart "https://b/"]),
          (Context.halfMinute, .ofList [apart "https://a/"])] total r₂ ∧
        Course (Context.blank .sqlite)
          [(Context.halfMinute, .ofList [apart "https://b/", apart "https://a/"])] total r₃ ∧
        EndAlike (Context.blank .sqlite) 2 r₁ r₂ ∧ EndAlike (Context.blank .sqlite) 2 r₁ r₃ ∧
        EndAlike (Context.blank .sqlite) 2 r₂ r₃ := by
  have hfresh : HasFresh (Context.blank .sqlite).ids (Context.blank .sqlite).drawn 2
      (Context.blank .sqlite).database.tables := by
    refine ⟨fun k _ row hrow => absurd hrow List.not_mem_nil, fun j k hjk hk => ?_⟩
    obtain ⟨rfl, rfl⟩ : j = 0 ∧ k = 1 := by omega
    decide
  have hdisjoint : ∀ d ∈ [apart "https://a/"], ∀ e ∈ [apart "https://b/"], d.url ≠ e.url := by
    decide
  exact ⟨hfresh, sync_of_splitting Tables.keyed_empty rfl rfl
    (fun d _ row hrow => absurd hrow List.not_mem_nil) hfresh hdisjoint (.swap _ _ [])
    Context.halfMinute Context.halfMinute Context.halfMinute Context.halfMinute Context.halfMinute⟩

end Fleet.Sync
