/-
  Fleet/Proofs/Store/Integrity.lean
  =================================
  **The tables stay intact.**

  Tables are intact (`Tables.Intact`) when their keys are unique, no link is there twice, and
  every link leads to a row.  Each of the five statements that change the tables could break one
  of these: a new row may take a key, an overwritten row may take the URL of another one, a
  deleted row may leave links behind, a new link may be there already or lead nowhere.  None of
  them does (`Call.intact_perform`).

  Saving overwrites one row and nothing else (`Call.spared_save`): it touches no link, no other
  row, and neither the identifier nor the time of creation of the row it overwrites.  Where there
  is no row with the identifier it says so, before it looks at the URL (`Call.save_absent`).
-/
import Mathlib.Data.List.Forall2
import Fleet.Proofs.Store.Keys

namespace Fleet.Store

def Link.pair (l : Link) : Uuid × Uuid := (l.identity, l.cluster)

theorem Row.isTarget_iff {r : Row} {l : Link} : r.isTarget l = true ↔ l.cluster.render = r.id := by
  simp [Row.isTarget]

namespace Tables

variable {t : Tables} {r row : Row} {traps : List Trap} {now : Nat}

/-! ### Intact tables -/

/-- Keys are unique, links are unique, and every link leads to a row. -/
structure Intact (t : Tables) : Prop where
  keyed : t.Keyed
  links : (t.links.map Link.pair).Nodup
  leads : ∀ l ∈ t.links, ∃ r ∈ t.rows, r.isTarget l = true

theorem intact_empty : Tables.empty.Intact := by
  refine ⟨keyed_empty, List.nodup_nil, ?_⟩
  intro l hl
  cases hl

theorem Intact.add (h : t.Intact) (hfree : ∀ r ∈ t.rows, r.id ≠ row.id ∧ r.url ≠ row.url) :
    (t.add row).Intact where
  keyed := h.keyed.add hfree
  links := h.links
  leads l hl := by
    obtain ⟨r, hr, htarget⟩ := h.leads l hl
    exact ⟨r, List.mem_append_left _ hr, htarget⟩

theorem Intact.put (h : t.Intact) (hfree : ∀ q ∈ t.rows, q.id ≠ row.id → q.url ≠ row.url) :
    (t.put row).Intact where
  keyed := h.keyed.put hfree
  links := h.links
  leads l hl := by
    obtain ⟨r, hr, htarget⟩ := h.leads l hl
    refine ⟨_, List.mem_map_of_mem hr, ?_⟩
    -- the row that takes the place of another one has its identifier, and links go by that
    split
    · rename_i hid
      rw [Row.isTarget_iff] at htarget ⊢
      exact htarget.trans hid
    · exact htarget

theorem Intact.drop (h : t.Intact) (r : Row) : (t.drop r).Intact where
  keyed := h.keyed.drop r
  links := h.links.sublist (List.filter_sublist.map _)
  leads l hl := by
    obtain ⟨hl, hkept⟩ := List.mem_filter.1 hl
    obtain ⟨q, hq, htarget⟩ := h.leads l hl
    refine ⟨q, List.mem_filter.2 ⟨hq, ?_⟩, htarget⟩
    have hne : q.id ≠ r.id := by
      intro hid
      rw [Row.isTarget_iff] at htarget
      rw [Row.isTarget_iff.2 (htarget.trans hid)] at hkept
      cases hkept
    simpa using hne

theorem Intact.tie (h : t.Intact) {l : Link} (hnew : t.link? l.identity l.cluster = none)
    (hrow : t.row? l.cluster.render = some r) : (t.tie l).Intact where
  keyed := h.keyed
  links := by
    have hpair : l.pair ∉ t.links.map Link.pair := by
      intro hmem
      obtain ⟨k, hk, hpair⟩ := List.mem_map.1 hmem
      have hk := List.find?_eq_none.1 hnew k hk
      rw [Link.pair, Link.pair, Prod.mk.injEq] at hpair
      simp [hpair] at hk
    rw [Tables.tie, List.map_append]
    refine List.nodup_append.2 ⟨h.links, List.pairwise_singleton _ _, ?_⟩
    intro p hp q hq heq
    rw [List.map_singleton, List.mem_singleton] at hq
    rw [heq, hq] at hp
    exact hpair hp
  leads k hk := by
    rcases List.mem_append.1 hk with hk | hk
    · exact h.leads k hk
    · obtain ⟨hr, hid⟩ := row?_eq_some hrow
      refine ⟨r, hr, ?_⟩
      rw [List.mem_singleton.1 hk, Row.isTarget_iff, hid]

theorem Intact.untie (h : t.Intact) (identity : Uuid) (r : Row) : (t.untie identity r).Intact where
  keyed := h.keyed
  links := h.links.sublist (List.filter_sublist.map _)
  leads l hl := h.leads l (List.mem_filter.1 hl).1

/-- A link is added only where there is none yet, and only to a row. -/
theorem link_free {identity cluster : Uuid} {p : Link × Tables}
    (h : t.link traps now identity cluster = .ok p) :
    t.link? identity cluster = none ∧ ∃ r, t.row? cluster.render = some r := by
  unfold link at h
  split at h
  · cases h
  · split at h
    · cases h
    · rename_i hnew
      split at h
      · cases h
      · rename_i hrow
        rw [Bool.not_eq_true, Option.isSome_eq_false_iff, Option.isNone_iff_eq_none] at hnew
        rw [Bool.not_eq_true, Option.isNone_eq_false_iff, Option.isSome_iff_exists] at hrow
        exact ⟨hnew, hrow⟩

/-! ### What saving leaves alone -/

/-- What saving a cluster makes of a row: it is the same row still, and unless it has the
    identifier of the cluster it is exactly what it was. -/
structure Spared (c : Cluster) (before after : Row) : Prop where
  id : after.id = before.id
  created : after.created = before.created
  other : before.id ≠ c.id.render → after = before

theorem Spared.refl (c : Cluster) (r : Row) : Spared c r r := ⟨rfl, rfl, fun _ => rfl⟩

theorem Keyed.spared_put (h : t.Keyed) {c : Cluster} (hr : t.row? c.id.render = some r) (now : Nat) :
    List.Forall₂ (Spared c) t.rows (t.put (r.overwrite now c)).rows := by
  obtain ⟨hmem, hid⟩ := row?_eq_some hr
  apply List.forall₂_map_right_iff.2
  apply List.forall₂_same.2
  intro q hq
  change Spared c q (if q.id = r.id then r.overwrite now c else q)
  by_cases hqr : q.id = r.id
  · -- keys are unique, so that the row at this identifier is the one that is overwritten
    obtain rfl : q = r := h.eq_of_id hq hmem hqr
    rw [if_pos rfl]
    exact ⟨rfl, rfl, fun hne => absurd hid hne⟩
  · rw [if_neg hqr]
    exact Spared.refl c q

end Tables

/-! ### Calls -/

namespace Call

variable {b : Backend} {traps : List Trap} {now : Nat} {t : Tables}

theorem link_reply {identity cluster : Uuid} {l : Link}
    (h : ((Call.link identity cluster).perform b traps now t).reply = .ok l) :
    t.link? identity cluster = none ∧ ∃ r, t.row? cluster.render = some r := by
  unfold perform at h
  split at h
  · cases h
  · simp only [run] at h
    split at h
    · cases h
    · rename_i why _ _
      cases why <;> cases h
    · rename_i p hlink
      exact Tables.link_free hlink

/-- **Every call keeps the tables intact.** -/
theorem intact_perform (c : Call α) (h : t.Intact) : (c.perform b traps now t).tables.Intact := by
  cases hr : (c.perform b traps now t).reply with
  | error e =>
    rw [perform_tables_of_error hr]
    exact h
  | ok a =>
    rw [perform_tables_of_ok hr]
    cases c with
    | create c => exact h.add (create_reply_iff.1 hr).2.2.1
    | save c =>
      obtain ⟨-, r, hrow, -, hfree, -⟩ := save_reply_iff.1 hr
      simp only [effect, hrow]
      exact h.put hfree
    | delete id =>
      simp only [effect]
      split
      · exact h
      · exact h.drop _
    | link identity cluster =>
      obtain ⟨hnew, r, hrow⟩ := link_reply hr
      exact h.tie hnew hrow
    | unlink identity url =>
      simp only [effect]
      split
      · exact h
      · exact h.untie identity _
    | load _ | find _ | list _ | loadLink _ _ | links _ | clustersOf _ => exact h

/-- **Saving overwrites one row and nothing else**, whatever comes of it. -/
theorem spared_save (c : Cluster) (h : t.Keyed) :
    ((Call.save c).perform b traps now t).tables.links = t.links ∧
      List.Forall₂ (Tables.Spared c) t.rows ((Call.save c).perform b traps now t).tables.rows := by
  cases hr : ((Call.save c).perform b traps now t).reply with
  | error e =>
    rw [perform_tables_of_error hr]
    exact ⟨rfl, List.forall₂_same.2 fun r _ => Tables.Spared.refl c r⟩
  | ok a =>
    obtain ⟨-, r, hrow, -⟩ := save_reply_iff.1 hr
    rw [perform_tables_of_ok hr]
    simp only [effect, hrow]
    exact ⟨rfl, h.spared_put hrow now⟩

/-- **Where there is no row to overwrite, saving says so**, whoever has the URL. -/
theorem save_absent {c : Cluster} (hb : b.writable = true) (h : t.row? c.id.render = none) :
    ((Call.save c).perform b traps now t).reply = .error (.notFound .cluster c.id.render) := by
  simp [perform, writes, hb, run, Tables.update_eq_ok_none_iff.2 h, answer]

end Call

end Fleet.Store
