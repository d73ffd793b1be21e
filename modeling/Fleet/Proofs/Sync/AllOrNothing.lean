/-
  Fleet/Proofs/Sync/AllOrNothing.lean
  ===================================
  **A sync does everything or nothing.**

  A sync writes the definitions of its snapshot one after another.  As their URLs are all
  different, none of them touches the row of another one, and what a run over the whole list
  has done is what its first step and the run over the rest have done (`Written.transfer`).
  So if nothing fails, `Synced` describes the tables in the end by those in the beginning
  (`writeAll_done`).  If something fails it is the writing of one definition, after all the
  definitions before it have been written (`writeAll_cases`), and nothing of this is kept.

  Both together are `sync_all_or_nothing`.  It covers syncs during which the deadline passes,
  wherever it does.
-/
import Fleet.Proofs.Context.Execution
import Fleet.Proofs.Sync.Upsert

namespace Fleet.Sync

open Fleet.Store Fleet.Work

variable {σ : Type} {ds : List Definition} {rep : SyncReport}

/-! ### One definition after another -/

def tally (rep : SyncReport) (isNew : Bool) : SyncReport :=
  if isNew then { rep with created := rep.created + 1 } else { rep with updated := rep.updated + 1 }

theorem run_writeAll_cons (rep : SyncReport) (d : Definition) (ds : List Definition) (s : Scene σ) :
    (writeAll rep (d :: ds)).run s =
      match (upsert d).run s with
      | (.done isNew, s') => (writeAll (tally rep isNew) ds).run s'
      | (.failed e, s') => (.failed (.within (describe d) e), s')
      | (.brokenDown b, s') => (.brokenDown b, s') := by
  simp only [writeAll, run_bind, run_within]
  rcases (upsert d).run s with ⟨o, s'⟩
  cases o with
  | done isNew => cases isNew <;> rfl
  | failed e => rfl
  | brokenDown b => rfl

/-- **Definitions are written until one of them cannot be written.** -/
theorem writeAll_cases (rep : SyncReport) (ds : List Definition) (s : Scene σ) :
    (∃ rep' s', (writeAll rep ds).run s = (.done rep', s')) ∨
      ∃ pre d post rep₁ s₁ why s', ds = pre ++ d :: post ∧
        (writeAll rep pre).run s = (.done rep₁, s₁) ∧
        ((upsert d).run s₁).1 = .failed why ∧ EndsIn ((upsert d).history s₁) why ∧
        (writeAll rep ds).run s = (.failed (.within (describe d) why), s') := by
  induction ds generalizing rep s with
  | nil => exact .inl ⟨rep, s, rfl⟩
  | cons d ds ih =>
    rcases upsert_cases d s with ⟨why, s', hrun, hend⟩ | ⟨s₁, hrun, -⟩
    · right
      refine ⟨[], d, ds, rep, s, why, s', rfl, rfl, by rw [hrun], hend, ?_⟩
      rw [run_writeAll_cons, hrun]
    · have hcons : ∀ ds', (writeAll rep (d :: ds')).run s =
          (writeAll (tally rep (s.txn.view.rowsAt d.url).isEmpty) ds').run s₁ := by
        intro ds'
        rw [run_writeAll_cons, hrun]
      rcases ih (tally rep (s.txn.view.rowsAt d.url).isEmpty) s₁ with
        ⟨rep', s', hrest⟩ | ⟨pre, e, post, rep₁, s₂, why, s', hds, hpre, hfail, hend, hrest⟩
      · exact .inl ⟨rep', s', (hcons ds).trans hrest⟩
      · right
        refine ⟨d :: pre, e, post, rep₁, s₂, why, s', ?_, (hcons pre).trans hpre, hfail, hend,
          (hcons ds).trans hrest⟩
        rw [hds, List.cons_append]

/-! ### What has been written -/

/-- The tables after all these definitions have been written. -/
structure Synced (fresh : Uuid → Prop) (ds : List Definition) (before after : Tables) : Prop where
  written : ∀ d ∈ ds, Written fresh d before after
  elsewhere : after.away (ds.map (·.url)) = before.away (ds.map (·.url))
  links : after.links = before.links
  keyed : after.Keyed

def absent (t : Tables) (ds : List Definition) : Nat := ds.countP fun d => (t.rowsAt d.url).isEmpty

/-- What holds for all rows away from some URLs holds for those of them at other places. -/
theorem filter_of_away {urls : List String} {t t' : Tables} (h : t'.away urls = t.away urls)
    {P : String → Bool} (hP : ∀ u ∈ urls, P u = false) :
    (t'.rows.filter fun r => P r.url) = t.rows.filter fun r => P r.url := by
  have hsplit : ∀ rows : List Row, (rows.filter fun r => P r.url) =
      (rows.filter (·.url ∉ urls)).filter fun r => P r.url := by
    intro rows
    rw [List.filter_filter]
    refine List.filter_congr fun r _ => ?_
    by_cases hr : r.url ∈ urls
    · simp [hr, hP _ hr]
    · simp [hr]
  rw [hsplit, hsplit t.rows]
  exact congrArg (List.filter _) h

/-- What has become of the row of a definition does not depend on what happened before and
    after at other places. -/
theorem Written.transfer {fresh fresh' : Uuid → Prop} {d : Definition} {t t₁ t₂ t' : Tables}
    (h : Written fresh d t₁ t₂) (hbefore : t₁.rowsAt d.url = t.rowsAt d.url)
    (hafter : t'.rowsAt d.url = t₂.rowsAt d.url)
    (hids : ∀ q ∈ t.rows, ∃ r ∈ t₁.rows, r.id = q.id)
    (hfresh : t.rowsAt d.url = [] → ∀ id, fresh id → fresh' id) : Written fresh' d t t' := by
  cases h with
  | overwritten hold hrow hcarries hid hcreated hprovider =>
    exact .overwritten (hbefore ▸ hold) (hafter ▸ hrow) hcarries hid hcreated hprovider
  | created hnone hrow hcarries hnew hid hfree hprovider =>
    have hnone := hbefore ▸ hnone
    refine .created hnone (hafter ▸ hrow) hcarries (hfresh hnone _ hnew) hid ?_ hprovider
    intro q hq he
    obtain ⟨r, hr, hrid⟩ := hids q hq
    exact hfree r hr (hrid.trans he)

theorem Upserted.rowsAt {id : Uuid} {d : Definition} {t t₁ : Tables} (h : Upserted id d t t₁)
    {url : String} (hne : d.url ≠ url) : t₁.rowsAt url = t.rowsAt url :=
  h.elsewhere (fun u => decide (u = url)) (decide_eq_false hne)

theorem Upserted.synced_cons {id : Uuid} {fresh₁ fresh : Uuid → Prop} {d : Definition}
    {t t₁ t' : Tables} (h : Upserted id d t t₁) (hrest : Synced fresh₁ ds t₁ t')
    (hd : ∀ e ∈ ds, d.url ≠ e.url) (hid : t.rowsAt d.url = [] → fresh id)
    (hmono : ∀ u, fresh₁ u → fresh u) : Synced fresh (d :: ds) t t' where
  written e he := by
    rcases List.mem_cons.1 he with rfl | he
    · have hafter : t'.rowsAt e.url = t₁.rowsAt e.url := by
        refine filter_of_away hrest.elsewhere (P := fun u => decide (u = e.url)) fun u hu => ?_
        obtain ⟨e', he', rfl⟩ := List.mem_map.1 hu
        exact decide_eq_false (hd e' he').symm
      exact h.written.transfer rfl hafter (fun q hq => ⟨q, hq, rfl⟩)
        fun hnone u hu => hu ▸ hid hnone
    · exact (hrest.written e he).transfer (h.rowsAt (hd e he)) rfl h.ids_kept fun _ => hmono
  elsewhere := by
    have hfirst := h.elsewhere (fun u => decide (u ∉ (d :: ds).map (·.url))) (by simp)
    have hlast := filter_of_away hrest.elsewhere
      (P := fun u => decide (u ∉ (d :: ds).map (·.url))) fun u hu => by simp [hu]
    exact hlast.trans hfirst
  links := hrest.links.trans h.links
  keyed := hrest.keyed

theorem Upserted.absent {id : Uuid} {d : Definition} {t t₁ : Tables} (h : Upserted id d t t₁)
    (hd : ∀ e ∈ ds, d.url ≠ e.url) : absent t₁ ds = Sync.absent t ds :=
  List.countP_congr fun e he => by rw [h.rowsAt (hd e he)]

/-- What writing definitions has come to. -/
structure Advanced (ds : List Definition) (rep rep' : SyncReport) (s s' : Scene σ) : Prop where
  isLive : s.IsLive → s'.IsLive
  ids : s'.registry.ids = s.registry.ids
  drawn : s.registry.drawn ≤ s'.registry.drawn
  synced : Synced (fun u => ∃ k, s.registry.drawn ≤ k ∧ k < s'.registry.drawn ∧ u = s.registry.ids k)
    ds s.txn.view s'.txn.view
  created : rep'.created = rep.created + absent s.txn.view ds
  total : rep'.created + rep'.updated = rep.created + rep.updated + ds.length

/-- **Definitions with different URLs are written side by side.** -/
theorem writeAll_done {rep' : SyncReport} {s s' : Scene σ}
    (h : (writeAll rep ds).run s = (.done rep', s')) (hk : s.txn.view.Keyed)
    (hds : ds.Pairwise fun a b => a.url ≠ b.url) : Advanced ds rep rep' s s' := by
  induction ds generalizing rep s with
  | nil =>
    cases h
    exact ⟨id, rfl, le_refl _, ⟨by simp, rfl, rfl, hk⟩, rfl, rfl⟩
  | cons d ds ih =>
    obtain ⟨hd, hds⟩ := List.pairwise_cons.1 hds
    rcases upsert_cases d s with ⟨why, s₁, hrun, -⟩ | ⟨s₁, hrun, hlive, hids, hdrawn, hup⟩
    · rw [run_writeAll_cons, hrun] at h
      cases h
    · rw [run_writeAll_cons, hrun] at h
      have hup := hup hk
      have hrest := ih h hup.keyed hds
      have habsent := hup.absent hd
      have hfirst : s.txn.view.rowsAt d.url = [] → s.registry.drawn < s'.registry.drawn := by
        intro hnone
        rw [hnone] at hdrawn
        exact lt_of_lt_of_le (by rw [hdrawn]; exact Nat.lt_succ_self _) hrest.drawn
      have hle : s.registry.drawn ≤ s₁.registry.drawn := hdrawn ▸ Nat.le_add_right _ _
      refine {
        isLive := fun _ => hrest.isLive hlive
        ids := hrest.ids.trans hids
        drawn := le_trans hle hrest.drawn
        synced := hup.synced_cons hrest.synced hd (fun hnone => ⟨_, le_refl _, hfirst hnone, rfl⟩) ?_
        created := ?_
        total := ?_ }
      · rintro u ⟨k, hk, hlt, rfl⟩
        exact ⟨k, le_trans hle hk, hlt, by rw [hids]⟩
      · rw [hrest.created, habsent, absent, absent, List.countP_cons]
        cases (s.txn.view.rowsAt d.url).isEmpty
        · simp [tally]
        · simp [tally]
          omega
      · rw [hrest.total, List.length_cons]
        cases (s.txn.view.rowsAt d.url).isEmpty
        · simp [tally]
          omega
        · simp [tally]
          omega

/-! ### When nothing fails -/

/-- The next identifiers, this many of them, are all different, and no row has one of them. -/
structure HasFresh (ids : Nat → Uuid) (drawn n : Nat) (t : Tables) : Prop where
  free : ∀ k < n, ∀ r ∈ t.rows, r.id ≠ (ids (drawn + k)).render
  different : ∀ j k, j < k → k < n → ids (drawn + j) ≠ ids (drawn + k)

theorem HasFresh.mono {ids : Nat → Uuid} {drawn m n : Nat} {t : Tables}
    (h : HasFresh ids drawn n t) (hle : m ≤ n) : HasFresh ids drawn m t where
  free k hk := h.free k (lt_of_lt_of_le hk hle)
  different j k hjk hk := h.different j k hjk (lt_of_lt_of_le hk hle)

/-- The first of the identifiers is free for a definition that has no row. -/
theorem HasFresh.free_first {ids : Nat → Uuid} {drawn n : Nat} {d : Definition} {t : Tables}
    (h : HasFresh ids drawn ((if (t.rowsAt d.url).isEmpty then 1 else 0) + n) t)
    (hnone : t.rowAt? d.url = none) : ∀ r ∈ t.rows, r.id ≠ (ids drawn).render := by
  refine h.free 0 ?_
  rw [Tables.rowsAt_eq_nil_iff.2 hnone]
  exact Nat.add_pos_left Nat.one_pos _

theorem HasFresh.upserted {ids : Nat → Uuid} {drawn n : Nat} {d : Definition} {t t₁ : Tables}
    (h : HasFresh ids drawn ((if (t.rowsAt d.url).isEmpty then 1 else 0) + n) t)
    (hup : Upserted (ids drawn) d t t₁) :
    HasFresh ids (drawn + (if (t.rowsAt d.url).isEmpty then 1 else 0)) n t₁ := by
  cases hnew : (t.rowsAt d.url).isEmpty with
  | false =>
    simp only [hnew, Bool.false_eq_true, if_false, Nat.zero_add] at h
    refine ⟨fun k hk r hr => ?_, h.different⟩
    rcases hup.ids_new r hr with ⟨q, hq, hid⟩ | ⟨hnone, -⟩
    · exact hid ▸ h.free k hk q hq
    · rw [hnone] at hnew
      cases hnew
  | true =>
    simp only [hnew, if_true] at h ⊢
    have hshift : ∀ k, drawn + 1 + k = drawn + (k + 1) := by omega
    refine ⟨fun k hk r hr => ?_, fun j k hjk hk => ?_⟩
    · rw [hshift]
      rcases hup.ids_new r hr with ⟨q, hq, hid⟩ | ⟨-, hid⟩
      · exact hid ▸ h.free (k + 1) (by omega) q hq
      · rw [hid]
        exact fun he => h.different 0 (k + 1) (by omega) (by omega) (Uuid.render_inj.1 he)
    · rw [hshift, hshift]
      exact h.different (j + 1) (k + 1) (by omega) (by omega)

theorem absent_cons (t : Tables) (d : Definition) (ds : List Definition) :
    absent t (d :: ds) = (if (t.rowsAt d.url).isEmpty then 1 else 0) + absent t ds := by
  rw [absent, absent, List.countP_cons, Nat.add_comm]

/-- **Without faults all definitions are written**, and the transaction can be committed. -/
theorem writeAll_succeeds (rep : SyncReport) {s : Scene σ} (hlive : s.IsLive)
    (hwritable : s.registry.database.backend.writable = true)
    (htraps : s.registry.database.traps = []) (hk : s.txn.view.Keyed)
    (hds : ds.Pairwise fun a b => a.url ≠ b.url)
    (hsound : ∀ d ∈ ds, ∀ row ∈ s.txn.view.rows, row.url = d.url → row.IsSound)
    (hfresh : HasFresh s.registry.ids s.registry.drawn (absent s.txn.view ds) s.txn.view) :
    ∃ rep' s', (writeAll rep ds).run s = (.done rep', s') ∧ s'.IsLive ∧
      s'.txn.doomed = s.txn.doomed := by
  induction ds generalizing rep s with
  | nil => exact ⟨rep, s, rfl, hlive, rfl⟩
  | cons d ds ih =>
    obtain ⟨hd, hds⟩ := List.pairwise_cons.1 hds
    rw [absent_cons] at hfresh
    obtain ⟨isNew, s₁, hrun, hdoomed⟩ := upsert_succeeds (d := d) hlive hwritable htraps hk
      (fun row hrow => hsound d List.mem_cons_self row (Tables.rowAt?_eq_some hrow).1
        (Tables.rowAt?_eq_some hrow).2) hfresh.free_first
    rcases upsert_cases d s with ⟨why, s₂, hfail, -⟩ | ⟨s₂, hdone, hlive₁, hids, hdrawn, hup⟩
    · rw [hrun] at hfail
      cases hfail
    · obtain ⟨rfl, rfl⟩ : isNew = (s.txn.view.rowsAt d.url).isEmpty ∧ s₁ = s₂ := by
        simpa using hrun.symm.trans hdone
      have hup := hup hk
      have hpath := run_path (upsert d) s
      rw [hrun] at hpath
      have hsound₁ : ∀ e ∈ ds, ∀ row ∈ s₁.txn.view.rows, row.url = e.url → row.IsSound := by
        intro e he row hrow hurl
        have hin : row ∈ s₁.txn.view.rowsAt e.url := Tables.mem_rowsAt.2 ⟨hrow, hurl⟩
        rw [hup.rowsAt (hd e he)] at hin
        exact hsound e (List.mem_cons_of_mem _ he) row (Tables.mem_rowsAt.1 hin).1 hurl
      obtain ⟨rep', s', hrest, hlive', hdoomed'⟩ := ih
        (tally rep (s.txn.view.rowsAt d.url).isEmpty) hlive₁
        (hpath.backend ▸ hwritable) (hpath.traps.trans htraps) hup.keyed hds hsound₁
        (by rw [hids, hdrawn, hup.absent hd]; exact hfresh.upserted hup)
      exact ⟨rep', s', by rw [run_writeAll_cons, hrun]; exact hrest, hlive',
        hdoomed'.trans hdoomed⟩

/-! ### All or nothing -/

/-- What the error of a sync that ran as `w` tells. -/
inductive Failure (terms : Terms) (r : Registry) (s : Snapshot) (w : Work Unit SyncReport) :
    Error → Prop where
  | begin {e : Error} :
      (Txn.begin r.database terms.isolation).1 = .error e → Failure terms r s w e
  | timeout {start : Scene Unit} :
      Context.start? terms r () = some start → (w.run start).2.cancelled = true →
      Failure terms r s w (.timedOut terms.timeout)
  | commit {start s' : Scene Unit} {rep : SyncReport} {e : Error} :
      Context.start? terms r () = some start → (work s).run start = (.done rep, s') →
      (s'.txn.commit s'.registry.database).1 = .error e → Failure terms r s w e
  /-- The definitions before this one were written, and a call about this one was answered with
      `why`. -/
  | write {start s₁ : Scene Unit} {pre post : List Definition} {d : Definition} {rep : SyncReport}
      {why : Error} :
      Context.start? terms r () = some start → s.definitions = pre ++ d :: post →
      (writeAll ⟨0, 0⟩ pre).run start = (.done rep, s₁) →
      ((upsert d).run s₁).1 = .failed why → EndsIn ((upsert d).history s₁) why →
      Failure terms r s w (.within (describe d) why)

/-- A sync that runs as `w` does everything or nothing. -/
structure AllOrNothing (terms : Terms) (r : Registry) (s : Snapshot) (w : Work Unit SyncReport) :
    Prop where
  /-- Everything: all definitions are written, and counted. -/
  ok : ∀ rep r', r.execute terms w = (.ok rep, r') →
    Synced (fun u => ∃ k, r.drawn ≤ k ∧ k < r'.drawn ∧ u = r.ids k) s.definitions
        r.database.tables r'.database.tables ∧
      rep.created = absent r.database.tables s.definitions ∧
      rep.created + rep.updated = s.size
  /-- Nothing: the tables are as before. -/
  error : ∀ e r', r.execute terms w = (.error e, r') →
    r'.database.tables = r.database.tables ∧ Failure terms r s w e
  /-- Without faults and in time it is everything. -/
  succeeds : r.database.traps = [] → r.database.backend.writable = true →
    (∀ d ∈ s.definitions, ∀ row ∈ r.database.tables.rows, row.url = d.url → row.IsSound) →
    HasFresh r.ids r.drawn s.size r.database.tables →
    ∃ rep r', r.sync terms s = (.ok rep, r')

variable {terms : Terms} {r : Registry} {s : Snapshot} {w : Work Unit SyncReport}

theorem urls_ne (s : Snapshot) : s.definitions.Pairwise fun a b => a.url ≠ b.url :=
  s.ascending.imp fun {a b} (h : a.url < b.url) (he : a.url = b.url) =>
    String.lt_irrefl b.url (he ▸ h)

/-- A sync that succeeds has run on time and has been committed. -/
theorem synced_of_ok (hk : r.database.tables.Keyed) (hw : Delayed (work s) w) {rep : SyncReport}
    {r' : Registry} (h : r.execute terms w = (.ok rep, r')) :
    Synced (fun u => ∃ k, r.drawn ≤ k ∧ k < r'.drawn ∧ u = r.ids k) s.definitions
        r.database.tables r'.database.tables ∧
      rep.created = absent r.database.tables s.definitions ∧
      rep.created + rep.updated = s.size := by
  obtain ⟨hanswer, rfl⟩ := Prod.mk.inj h
  have hdone := Registry.answer_eq_ok.1 hanswer
  cases hs : Context.start? terms r () with
  | none =>
    obtain ⟨e, -, he⟩ := Context.execute_of_not_start (w := w) hs
    rw [he] at hdone
    cases hdone
  | some start =>
    rw [Context.execute_of_start hs] at hdone ⊢
    obtain ⟨ho, hc, hcommit, hsettle⟩ := Context.settle_done hdone
    obtain ⟨-, htables⟩ := Txn.tables_of_commit_ok hcommit
    rcases hw.run start with hlate | heq
    · rw [hlate] at hc
      cases hc
    · rw [hsettle, htables]
      rw [heq] at ho ⊢
      rcases hrun : (work s).run start with ⟨o, s'⟩
      rw [hrun] at ho
      subst ho
      have hstart := Context.starts hs
      have hadv := writeAll_done hrun (hstart.view ▸ hk) (urls_ne s)
      have hrunning : s'.txn.condition ≠ .aborted := by
        rw [(hadv.isLive hstart.isLive).2]
        exact nofun
      have hsynced := hadv.synced
      have hcreated := hadv.created
      rw [hstart.view, hstart.ids, hstart.drawn] at hsynced
      rw [hstart.view, Nat.zero_add] at hcreated
      rw [if_neg hrunning]
      exact ⟨hsynced, hcreated, hadv.total.trans (Nat.zero_add _)⟩

/-- A sync that fails leaves the tables as they were, and its error tells why it failed. -/
theorem failure_of_error (hw : Delayed (work s) w) {e : Error} {r' : Registry}
    (h : r.execute terms w = (.error e, r')) :
    r'.database.tables = r.database.tables ∧ Failure terms r s w e := by
  obtain ⟨hanswer, rfl⟩ := Prod.mk.inj h
  have hnot : ∀ rep, (Context.execute terms w r () .idle).outcome ≠ .done rep := by
    intro rep hdone
    rw [hdone] at hanswer
    cases hanswer
  refine ⟨Context.tables_of_not_done hnot, ?_⟩
  cases hs : Context.start? terms r () with
  | none =>
    obtain ⟨e', hbegin, he⟩ := Context.execute_of_not_start (w := w) hs
    rw [he] at hanswer
    cases hanswer
    exact .begin (congrArg Prod.fst hbegin)
  | some start =>
    rw [Context.execute_of_start hs] at hnot hanswer
    obtain ⟨e', he', hwhy⟩ := Context.settle_failed hnot
    rw [he'] at hanswer
    cases hanswer
    rcases hwhy with ⟨hc, rfl⟩ | ⟨hc, hwhy⟩
    · exact .timeout hs hc
    · rcases hw.run start with hlate | heq
      · rw [hlate] at hc
        cases hc
      · rw [heq] at hwhy
        rcases writeAll_cases ⟨0, 0⟩ s.definitions start with
          ⟨rep, s', hrun⟩ | ⟨pre, d, post, rep, s₁, why, s', hds, hpre, hfail, hend, hrun⟩
        · rw [work, hrun] at hwhy
          rcases hwhy with ⟨-, -, hcommit⟩ | hfailed | ⟨b, hb, -⟩
          · exact .commit hs hrun hcommit
          · cases hfailed
          · cases hb
        · rw [work, hrun] at hwhy
          rcases hwhy with ⟨rep, hrep, -⟩ | hfailed | ⟨b, hb, -⟩
          · cases hrep
          · cases hfailed
            exact .write hs hds hpre hfail hend
          · cases hb

/-- A sync needs fresh identifiers for those definitions only that have no row. -/
theorem sync_succeeds_of_absent (hk : r.database.tables.Keyed) (htraps : r.database.traps = [])
    (hwritable : r.database.backend.writable = true)
    (hsound : ∀ d ∈ s.definitions, ∀ row ∈ r.database.tables.rows, row.url = d.url → row.IsSound)
    (hfresh : HasFresh r.ids r.drawn (absent r.database.tables s.definitions) r.database.tables) :
    ∃ rep r', r.sync terms s = (.ok rep, r') := by
  cases hs : Context.start? terms r () with
  | none =>
    obtain ⟨e, hbegin, -⟩ := Context.execute_of_not_start (w := work s) hs
    rw [Txn.begin, htraps] at hbegin
    cases hbegin
  | some start =>
    have hstart := Context.starts hs
    obtain ⟨rep, s', hrun, hlive, hdoomed⟩ := writeAll_succeeds ⟨0, 0⟩ hstart.isLive
      (hstart.backend ▸ hwritable) (hstart.traps.trans htraps) (hstart.view ▸ hk) (urls_ne s)
      (hstart.view ▸ hsound) (by rw [hstart.ids, hstart.drawn, hstart.view]; exact hfresh)
    have htimely := (run_path (work s) start).isTimely hstart.isTimely
    rw [work, hrun] at htimely
    have hopen := Bool.or_eq_false_iff.1 hlive.1
    have hcancelled : s'.cancelled = false := htimely.marked.symm.trans hopen.1
    have hcommit : (s'.txn.commit s'.registry.database).1 = .ok () :=
      Txn.commit_ok hlive.1 hlive.2 (hdoomed.trans hstart.doomed)
    refine ⟨rep, _, Prod.ext (Registry.answer_eq_ok.2 ?_) rfl⟩
    rw [Context.execute_of_start hs, work, hrun]
    exact Context.settle_of_commit hcancelled hcommit

theorem sync_succeeds (hk : r.database.tables.Keyed) (htraps : r.database.traps = [])
    (hwritable : r.database.backend.writable = true)
    (hsound : ∀ d ∈ s.definitions, ∀ row ∈ r.database.tables.rows, row.url = d.url → row.IsSound)
    (hfresh : HasFresh r.ids r.drawn s.size r.database.tables) :
    ∃ rep r', r.sync terms s = (.ok rep, r') :=
  sync_succeeds_of_absent hk htraps hwritable hsound (hfresh.mono List.countP_le_length)

/-- **A sync does everything or nothing**, wherever it is late. -/
theorem sync_all_or_nothing (terms : Terms) (r : Registry) (s : Snapshot)
    (w : Work Unit SyncReport) (hk : r.database.tables.Keyed) (hw : Delayed (work s) w) :
    AllOrNothing terms r s w where
  ok _ _ h := synced_of_ok hk hw h
  error _ _ h := failure_of_error hw h
  succeeds := sync_succeeds hk

/-- A registry with one cluster, to which an identity is linked. -/
def peopled : Registry :=
  let r := (Context.blank .sqlite).call (.create { Context.bare "https://b/" with id := ⟨9⟩ })
  (r.2.call (.link ⟨5⟩ ⟨9⟩)).2

/-- A new cluster, and another name for the one that there is. -/
def overlap : Snapshot :=
  let d := (Context.bare "https://b/").toDefinition
  Snapshot.ofList [{ d with name := "b" }, { d with url := "https://a/" }]

/-- The sync of the two, with a delay after the first one in which the deadline may pass. -/
def lateOverlap : Work Unit SyncReport :=
  match overlap.definitions with
  | [] => .done ⟨0, 0⟩
  | d :: ds => do
    let isNew ← (upsert d).within (describe d)
    .awaitCancel (writeAll (tally ⟨0, 0⟩ isNew) ds)

theorem overlap_all_or_nothing :
    peopled.database.tables.Keyed ∧
      (peopled.database.tables.rows.length, peopled.database.tables.links.length) = (1, 1) ∧
      (AllOrNothing Context.halfMinute peopled overlap (work overlap) ∧
        (peopled.sync Context.halfMinute overlap).1.toOption = some ⟨1, 1⟩) ∧
      AllOrNothing Context.halfMinute peopled overlap lateOverlap ∧
        (peopled.execute Context.halfMinute lateOverlap).1.toOption = none := by
  have hk : peopled.database.tables.Keyed := List.pairwise_singleton _ _
  have hlate : Delayed (work overlap) lateOverlap := by
    refine (Delayed.refl _).bind fun isNew => ?_
    cases isNew <;> exact .late (.refl _)
  exact ⟨hk, by decide +kernel,
    ⟨sync_all_or_nothing Context.halfMinute peopled overlap _ hk (.refl _), by decide +kernel⟩,
    sync_all_or_nothing Context.halfMinute peopled overlap _ hk hlate, by decide +kernel⟩

end Fleet.Sync
