/-
  Fleet/Proofs/Sync/Renaming.lean
  ===============================
  **Syncs do not depend on the clock, nor on the names of new identifiers.**

  Two tables are renamings of each other if they have rows at the same URLs, and these are the same
  but for times and for the identifiers that are new; a new identifier may have become the token
  provider of its row on both sides (`Tables.Renamed`).

  What is written on renamings are renamings again, if new rows get new identifiers
  (`Written.renamed`), and a definition that is admitted by one of them is admitted by the other one
  (`Tables.Renamed.admits_iff`).  So one snapshot is synced to both or to neither, with the same
  report (`Registry.Renamed.sync`).
-/
import Mathlib.Data.List.Forall2
import Fleet.Proofs.Context.Continuity
import Fleet.Proofs.Service.Rows
import Fleet.Proofs.Sync.Admission
import Fleet.Proofs.Sync.History

namespace Fleet

open Fleet.Store Fleet.Sync

variable {new new' : Uuid → Prop}

/-! ### Rows and tables -/

/-- Two rows that are the same but for times and for the names of new identifiers. -/
structure Store.Row.Renamed (new new' : Uuid → Prop) (a b : Row) : Prop where
  profile : { a.toProfile with tokenProvider := "" } = { b.toProfile with tokenProvider := "" }
  kind : a.kind = b.kind
  id : a.id = b.id ∨ ∃ u u', new u ∧ new' u' ∧ a.id = u.render ∧ b.id = u'.render
  /-- The identifier may stand in for the token provider. -/
  provider : a.tokenProvider = b.tokenProvider ∨ a.tokenProvider = a.id ∧ b.tokenProvider = b.id

/-- Tables with the same rows, but for times and for the names of new identifiers. -/
structure Store.Tables.Renamed (new new' : Uuid → Prop) (t t' : Tables) : Prop where
  rows : ∀ url, List.Forall₂ (Row.Renamed new new') (t.rowsAt url) (t'.rowsAt url)
  links : t.links = t'.links

namespace Store

section

variable {a b : Row}

theorem Row.Renamed.refl (new new' : Uuid → Prop) (a : Row) : Row.Renamed new new' a a :=
  ⟨rfl, rfl, .inl rfl, .inl rfl⟩

theorem Row.Renamed.symm (h : Row.Renamed new new' a b) : Row.Renamed new' new b a where
  profile := h.profile.symm
  kind := h.kind.symm
  id := h.id.imp Eq.symm fun ⟨u, u', hu, hu', ha, hb⟩ => ⟨u', u, hu', hu, hb, ha⟩
  provider := h.provider.imp Eq.symm And.symm

theorem Row.Renamed.isSound (h : Row.Renamed new new' a b) (ha : a.IsSound) : b.IsSound := by
  obtain ⟨id, k, hid, hk⟩ := ha
  rcases h.id with hsame | ⟨u, u', -, -, -, hu'⟩
  · exact ⟨id, k, hsame.symm.trans hid, h.kind.symm.trans hk⟩
  · exact ⟨u', k, hu', h.kind.symm.trans hk⟩

end

namespace Tables.Renamed

variable {t t' : Tables}

theorem refl (new new' : Uuid → Prop) (t : Tables) : Tables.Renamed new new' t t :=
  ⟨fun _ => List.forall₂_same.2 fun a _ => .refl new new' a, rfl⟩

theorem symm (h : t.Renamed new new' t') : t'.Renamed new' new t :=
  ⟨fun url => (h.rows url).flip.imp fun _ _ hab => hab.symm, h.links.symm⟩

/-- At a URL both tables have no row, or a row and its renaming. -/
theorem rowAt?_cases (h : t.Renamed new new' t') (url : String) :
    (t.rowAt? url = none ∧ t'.rowAt? url = none) ∨
      ∃ a b, t.rowAt? url = some a ∧ t'.rowAt? url = some b ∧ a.Renamed new new' b := by
  have hrows := h.rows url
  rw [← head?_rowsAt, ← head?_rowsAt]
  generalize t.rowsAt url = rows, t'.rowsAt url = rows' at hrows
  cases hrows with
  | nil => exact .inl ⟨rfl, rfl⟩
  | cons hab _ => exact .inr ⟨_, _, rfl, rfl, hab⟩

theorem absent (h : t.Renamed new new' t') (ds : List Definition) :
    Sync.absent t ds = Sync.absent t' ds := by
  refine List.countP_congr fun d _ => ?_
  rw [List.isEmpty_iff_length_eq_zero, List.isEmpty_iff_length_eq_zero, (h.rows d.url).length_eq]

/-- What a table admits, its renamings admit. -/
theorem admits (h : t.Renamed new new' t') {b : Backend} {traps : List Trap} {d : Definition}
    (hd : Admits b traps t d) : Admits b traps t' d := by
  rcases h.rowAt?_cases d.url with ⟨hnone, hnone'⟩ | ⟨row, row', hrow, hrow', hrenamed⟩
  · exact .congr (hnone'.trans hnone.symm) hd
  · obtain ⟨hsound, hsprung⟩ := hd.renew row hrow
    refine ⟨hd.writable, ?_, ?_⟩
    · intro found hfound
      rw [hrow'] at hfound
      cases hfound
      exact ⟨hrenamed.isSound hsound, hsprung⟩
    · intro hnone
      rw [hrow'] at hnone
      cases hnone

end Tables.Renamed

end Store

/-! ### Writing on renamings -/

namespace Sync

variable {fresh fresh' : Uuid → Prop} {d : Definition} {ds : List Definition}
  {t t₁ t' t₁' : Tables}

/-- Texts that are the same or the identifiers stay so behind a text that comes first. -/
theorem firstGiven_renamed {a b id id' : String} (h : a = b ∨ a = id ∧ b = id') (p : String) :
    firstGiven p a = firstGiven p b ∨ firstGiven p a = id ∧ firstGiven p b = id' := by
  by_cases hp : p = ""
  · rw [hp, firstGiven_empty, firstGiven_empty]
    exact h
  · left
    rw [firstGiven_of_ne hp, firstGiven_of_ne hp]

theorem firstGiven_id_renamed {a b id id' : String} (h : a = b ∨ a = id ∧ b = id') :
    firstGiven a id = firstGiven b id' ∨ firstGiven a id = id ∧ firstGiven b id' = id' := by
  rcases h with rfl | ⟨rfl, rfl⟩
  · exact firstGiven_renamed (.inr ⟨rfl, rfl⟩) a
  · exact .inr ⟨firstGiven_self a, firstGiven_self b⟩

/-- Rows that carry one definition have the same profile, but for the token provider. -/
theorem Carries.profile_eq {a b : Row} (ha : Carries a d) (hb : Carries b d) :
    { a.toProfile with tokenProvider := "" } = { b.toProfile with tokenProvider := "" } := by
  rw [ha.1, hb.1]

theorem Carries.kind_eq {a b : Row} (ha : Carries a d) (hb : Carries b d) : a.kind = b.kind :=
  ha.2.trans hb.2.symm

/-- **One definition that is written on renamings leaves renamings at its URL.** -/
theorem Written.renamed (h : Written new d t t₁) (h' : Written new' d t' t₁')
    (hbefore : List.Forall₂ (Row.Renamed new new') (t.rowsAt d.url) (t'.rowsAt d.url)) :
    List.Forall₂ (Row.Renamed new new') (t₁.rowsAt d.url) (t₁'.rowsAt d.url) := by
  cases h with
  | @overwritten old row hold hrow hcarries hid hcreated hprovider =>
    cases h' with
    | @overwritten old' row' hold' hrow' hcarries' hid' hcreated' hprovider' =>
      rw [hold, hold'] at hbefore
      obtain ⟨hrenamed, -⟩ := List.forall₂_cons.1 hbefore
      rw [hrow, hrow']
      refine .cons ⟨hcarries.profile_eq hcarries', hcarries.kind_eq hcarries', ?_, ?_⟩ .nil
      · rw [hid, hid']
        exact hrenamed.id
      · rw [hprovider, hprovider', hid, hid']
        exact firstGiven_renamed (firstGiven_id_renamed hrenamed.provider) _
    | created hnone' =>
      rw [hold, hnone'] at hbefore
      cases hbefore
  | @created row u hnone hrow hcarries hfresh hid hfree hprovider =>
    cases h' with
    | overwritten hold' =>
      rw [hnone, hold'] at hbefore
      cases hbefore
    | @created row' u' hnone' hrow' hcarries' hfresh' hid' hfree' hprovider' =>
      rw [hrow, hrow']
      refine .cons ⟨hcarries.profile_eq hcarries', hcarries.kind_eq hcarries', ?_, ?_⟩ .nil
      · exact .inr ⟨u, u', hfresh, hfresh', hid, hid'⟩
      · rw [hprovider, hprovider']
        exact firstGiven_renamed (.inr ⟨rfl, rfl⟩) _

theorem Synced.mono (h : Synced fresh ds t t₁) (hfresh : ∀ u, fresh u → fresh' u) :
    Synced fresh' ds t t₁ where
  written d hd := (h.written d hd).transfer rfl rfl (fun q hq => ⟨q, hq, rfl⟩) fun _ => hfresh
  elsewhere := h.elsewhere
  links := h.links
  keyed := h.keyed

/-- **Syncing one snapshot to renamings leaves renamings.** -/
theorem Synced.renamed (h : Synced new ds t t₁) (h' : Synced new' ds t' t₁')
    (ht : t.Renamed new new' t') : t₁.Renamed new new' t₁' where
  rows url := by
    by_cases hurl : url ∈ ds.map (·.url)
    · obtain ⟨d, hd, rfl⟩ := List.mem_map.1 hurl
      exact (h.written d hd).renamed (h'.written d hd) (ht.rows d.url)
    · rw [h.rowsAt_elsewhere hurl, h'.rowsAt_elsewhere hurl]
      exact ht.rows url
  links := h.links.trans (ht.links.trans h'.links.symm)

/-- An identifier in the tables after a sync was there before, or is a fresh one. -/
theorem Synced.id_cases (h : Synced fresh ds t t₁) {row : Row} (hrow : row ∈ t₁.rows) :
    (∃ old ∈ t.rows, old.id = row.id) ∨ ∃ u, fresh u ∧ row.id = u.render := by
  rcases h.mem_rows hrow with ⟨d, hd, hat⟩ | hold
  · cases h.written d hd with
    | @overwritten old new hold hnew hcarries hid hcreated hprovider =>
      rw [hnew, List.mem_singleton] at hat
      subst hat
      have hin : old ∈ t.rowsAt d.url := by
        rw [hold]
        exact List.mem_singleton_self old
      exact .inl ⟨old, (Tables.mem_rowsAt.1 hin).1, hid.symm⟩
    | @created new u hnone hnew hcarries hfresh hid hfree hprovider =>
      rw [hnew, List.mem_singleton] at hat
      subst hat
      exact .inr ⟨u, hfresh, hid⟩
  · exact .inl ⟨row, hold, rfl⟩

end Sync

/-! ### Identifiers -/

namespace Sync

open Fleet.Work

variable {σ : Type}

theorem drawn_upsert_le (d : Definition) (s : Scene σ) :
    ((upsert d).run s).2.registry.drawn ≤ s.registry.drawn + 1 := by
  rw [upsert_eq]
  simp only [run]
  rcases (s.call (.find d.url)).1 with e | _ | c
  · exact Nat.le_succ _
  · simp only [run]
    cases ((s.call (.find d.url)).2.draw.2.call
      (.create (newCluster d (s.call (.find d.url)).2.draw.1))).1 <;> exact le_rfl
  · simp only [run]
    cases ((s.call (.find d.url)).2.call (.save (sameCluster d c))).1 <;> exact Nat.le_succ _

/-- However definitions are written, no more identifiers are drawn than there are definitions. -/
theorem drawn_writeAll_le (rep : SyncReport) (ds : List Definition) (s : Scene σ) :
    ((writeAll rep ds).run s).2.registry.drawn ≤ s.registry.drawn + ds.length := by
  induction ds generalizing rep s with
  | nil => exact le_rfl
  | cons d ds ih =>
    have hfirst := drawn_upsert_le d s
    rw [run_writeAll_cons, List.length_cons]
    generalize (upsert d).run s = x at hfirst ⊢
    rcases x with ⟨isNew | e | b, s₁⟩
    · have hrest := ih (tally rep isNew) s₁
      dsimp only at hfirst ⊢
      omega
    · dsimp only at hfirst ⊢
      omega
    · dsimp only at hfirst ⊢
      omega

end Sync

/-! ### Registries -/

/-- The next identifiers of a registry, this many of them, are new ones, all different, and no row
    has one of them. -/
structure Registry.Supplies (r : Registry) (n : Nat) (new : Uuid → Prop) : Prop where
  new : ∀ k, r.drawn ≤ k → k < r.drawn + n → new (r.ids k)
  fresh : HasFresh r.ids r.drawn n r.database.tables

/-- Two registries that are the same but for times and for the names of new identifiers, with a
    supply of these. -/
structure Registry.Renamed (n : Nat) (new new' : Uuid → Prop) (r r' : Registry) : Prop where
  tables : r.database.tables.Renamed new new' r'.database.tables
  backend : r.database.backend = r'.database.backend
  traps : r.database.traps = r'.database.traps
  keyed : r.database.tables.Keyed
  keyed' : r'.database.tables.Keyed
  supplies : r.Supplies n new
  supplies' : r'.Supplies n new'

namespace Registry

variable {r r' : Registry} {n : Nat}

theorem drawn_sync_le (r : Registry) (terms : Terms) (s : Snapshot) :
    (r.sync terms s).2.drawn ≤ r.drawn + s.size := by
  change (r.execute terms (work s)).2.drawn ≤ r.drawn + s.size
  cases hs : Context.start? terms r () with
  | none =>
    obtain ⟨e, -, he⟩ := Context.execute_of_not_start (w := work s) hs
    rw [execute, he]
    exact Nat.le_add_right _ _
  | some start =>
    rw [drawn_execute hs, ← (Context.starts hs).drawn]
    exact drawn_writeAll_le ⟨0, 0⟩ s.definitions start

/-- Whether a sync succeeds or fails, it leaves the rest of the supply. -/
theorem Supplies.sync {s : Snapshot} (h : r.Supplies (s.size + n) new)
    (hk : r.database.tables.Keyed) (terms : Terms) : (r.sync terms s).2.Supplies n new := by
  have hids : (r.sync terms s).2.ids = r.ids := (r.continues_execute terms (work s)).ids
  obtain ⟨m, hm⟩ := Nat.exists_eq_add_of_le (r.drawn_le_execute terms (work s))
  have hdrawn : (r.sync terms s).2.drawn = r.drawn + m := hm
  have hle : m ≤ s.size := by
    have := r.drawn_sync_le terms s
    omega
  constructor
  · intro k hk hlt
    rw [hids]
    exact h.new k (by omega) (by omega)
  · constructor
    · intro k hlt row hrow
      have hfree := h.fresh.free (m + k) (by omega)
      rw [hids, hdrawn, Nat.add_assoc]
      rcases hsync : r.sync terms s with ⟨e | rep, r'⟩
      · rw [hsync] at hrow
        rw [(failure_of_error (.refl _) hsync).1] at hrow
        exact hfree row hrow
      · rw [hsync] at hrow hdrawn
        rcases (synced_of_ok hk (.refl _) hsync).1.id_cases hrow with
          ⟨old, hold, hid⟩ | ⟨u, ⟨j, hj, hlt', rfl⟩, hid⟩
        · exact hid ▸ hfree old hold
        · obtain ⟨i, rfl⟩ := Nat.exists_eq_add_of_le hj
          dsimp only at hdrawn
          rw [hid]
          exact fun he => h.fresh.different i (m + k) (by omega) (by omega) (Uuid.render_inj.1 he)
    · intro j k hjk hlt
      rw [hids, hdrawn, Nat.add_assoc, Nat.add_assoc]
      exact h.fresh.different (m + j) (m + k) (by omega) (by omega)

/-- What is written in a sync that succeeds has new identifiers from the supply. -/
theorem Supplies.synced {s : Snapshot} {terms : Terms} {rep : SyncReport}
    (h : r.Supplies (s.size + n) new) (hk : r.database.tables.Keyed)
    (hsync : r.sync terms s = (.ok rep, r')) :
    Synced new s.definitions r.database.tables r'.database.tables := by
  have hdrawn : r'.drawn ≤ r.drawn + s.size := by
    have hle := r.drawn_sync_le terms s
    rw [hsync] at hle
    exact hle
  refine (synced_of_ok hk (.refl _) hsync).1.mono ?_
  rintro u ⟨k, hle, hlt, rfl⟩
  exact h.new k hle (by omega)

namespace Renamed

variable {terms : Terms} {s : Snapshot}

/-- Where the tables are renamings after a sync, all is. -/
theorem after_sync (h : r.Renamed (s.size + n) new new' r') (terms : Terms)
    (htables : (r.sync terms s).2.database.tables.Renamed new new' (r'.sync terms s).2.database.tables) :
    (r.sync terms s).2.Renamed n new new' (r'.sync terms s).2 :=
  have hcontinues := r.continues_execute terms (work s)
  have hcontinues' := r'.continues_execute terms (work s)
  { tables := htables
    backend := hcontinues.backend.trans (h.backend.trans hcontinues'.backend.symm)
    traps := hcontinues.traps.trans (h.traps.trans hcontinues'.traps.symm)
    keyed := keyed_execute terms (work s) h.keyed
    keyed' := keyed_execute terms (work s) h.keyed'
    supplies := h.supplies.sync h.keyed terms
    supplies' := h.supplies'.sync h.keyed' terms }

/-- A snapshot is synced to both or to neither. -/
theorem sync_ok_iff (h : r.Renamed (s.size + n) new new' r') :
    (∃ rep r₁, r.sync terms s = (.ok rep, r₁)) ↔ ∃ rep r₁, r'.sync terms s = (.ok rep, r₁) := by
  have hle : ∀ t : Tables, absent t s.definitions ≤ s.size + n := fun t =>
    le_trans List.countP_le_length (Nat.le_add_right _ _)
  rw [Sync.sync_ok_iff h.keyed (h.supplies.fresh.mono (hle _)),
    Sync.sync_ok_iff h.keyed' (h.supplies'.fresh.mono (hle _)), h.traps, h.backend]
  exact and_congr_right fun _ => forall₂_congr fun d _ => ⟨h.tables.admits, h.tables.symm.admits⟩

/-- **One snapshot is synced to renamings with the same report, or to neither of them**, and they
    stay renamings. -/
theorem sync (h : r.Renamed (s.size + n) new new' r') (terms : Terms) :
    (r.sync terms s).1.toOption = (r'.sync terms s).1.toOption ∧
      (r.sync terms s).2.Renamed n new new' (r'.sync terms s).2 := by
  have hafter := h.after_sync terms
  rcases hsync : r.sync terms s with ⟨e | rep, r₁⟩
  · rcases hsync' : r'.sync terms s with ⟨e' | rep', r₁'⟩
    · rw [hsync, hsync'] at hafter
      refine ⟨rfl, hafter ?_⟩
      rw [(failure_of_error (.refl _) hsync).1, (failure_of_error (.refl _) hsync').1]
      exact h.tables
    · obtain ⟨rep, r₂, hok⟩ := h.sync_ok_iff.2 ⟨rep', r₁', hsync'⟩
      rw [hsync] at hok
      cases hok
  · obtain ⟨rep', r₁', hsync'⟩ := h.sync_ok_iff.1 ⟨rep, r₁, hsync⟩
    obtain ⟨-, hcreated, htotal⟩ := synced_of_ok h.keyed (.refl _) hsync
    obtain ⟨-, hcreated', htotal'⟩ := synced_of_ok h.keyed' (.refl _) hsync'
    have hnew : rep.created = rep'.created :=
      hcreated.trans ((h.tables.absent _).trans hcreated'.symm)
    have hreport : rep = rep' := by
      cases rep
      cases rep'
      simp only at hnew htotal htotal'
      simp only [SyncReport.mk.injEq]
      omega
    rw [hsync, hsync'] at hafter
    rw [hsync']
    exact ⟨congrArg some hreport,
      hafter ((h.supplies.synced h.keyed hsync).renamed (h.supplies'.synced h.keyed' hsync') h.tables)⟩

end Renamed

end Registry

end Fleet
