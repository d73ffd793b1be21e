/-
  Fleet/Proofs/Store/Links.lean
  =============================
  **The links as a relation.**

  The links are a relation of identities and the identifiers of clusters (`Tables.pairs`).  As long
  as the tables are intact and their rows are sound (`Tables.IsTidy`), every statement does to this
  relation what its name says: it adds or removes one pair, or all pairs of a cluster.  A database
  that may be written and has no traps set answers the calls about links by this relation alone
  (`Call.link_reply_eq`, `Call.unlink_reply_eq`), and the rows of an identity are those of the clusters
  that are related to it (`Call.clustersOf_reply`).
-/
import Mathlib.Data.Finset.Basic
import Mathlib.Data.String.Basic
import Fleet.Proofs.Store.Integrity

namespace Fleet.Store

theorem Row.IsSound.render_of_decode {r : Row} (h : r.IsSound) {c : Registered}
    (hc : r.decode = .ok c) : c.id.render = r.id := by
  obtain ⟨c', hc', hid⟩ := h.decode
  rw [hc] at hc'
  cases hc'
  exact hid

/-! ### The relation -/

namespace Tables

variable {t : Tables} {r row : Row} {identity cluster : Uuid} {url : String}

/-- The identities and the clusters between which there is a link. -/
def pairs (t : Tables) : Finset (Uuid × Uuid) := (t.links.map Link.pair).toFinset

/-- The identifier of the cluster at a URL, if there is one. -/
def clusterAt? (t : Tables) (url : String) : Option Uuid :=
  (t.rowAt? url).bind fun r => (Uuid.parse r.id).toOption

theorem mem_pairs : (identity, cluster) ∈ t.pairs ↔
    ∃ l ∈ t.links, l.identity = identity ∧ l.cluster = cluster := by
  simp [pairs, Link.pair]

theorem isSome_link? : (t.link? identity cluster).isSome = true ↔ (identity, cluster) ∈ t.pairs := by
  simp [link?, mem_pairs]

theorem link?_eq_none_iff : t.link? identity cluster = none ↔ (identity, cluster) ∉ t.pairs := by
  rw [← isSome_link?, Bool.not_eq_true, Option.isSome_eq_false_iff, Option.isNone_iff_eq_none]

/-- Tables as the registry leaves them. -/
structure IsTidy (t : Tables) : Prop where
  intact : t.Intact
  sound : ∀ r ∈ t.rows, r.IsSound

theorem isTidy_empty : Tables.empty.IsTidy where
  intact := intact_empty
  sound _ h := by cases h

theorem IsTidy.exists_cluster (h : t.IsTidy) (hr : r ∈ t.rows) :
    ∃ c, r.decode = .ok c ∧ c.id.render = r.id :=
  (h.sound r hr).decode

theorem clusterAt?_of_rowAt? (hrow : t.rowAt? url = some r) (hid : r.id = cluster.render) :
    t.clusterAt? url = some cluster := by
  rw [clusterAt?, hrow, Option.bind_some, hid, Uuid.parse_render]
  rfl

theorem clusterAt?_of_none (hrow : t.rowAt? url = none) : t.clusterAt? url = none := by
  rw [clusterAt?, hrow]
  rfl

/-- A pair leads to a row. -/
theorem IsTidy.exists_row (h : t.IsTidy) (hpair : (identity, cluster) ∈ t.pairs) :
    ∃ r, t.row? cluster.render = some r := by
  obtain ⟨l, hl, -, rfl⟩ := mem_pairs.1 hpair
  obtain ⟨r, hr, htarget⟩ := h.intact.leads l hl
  rw [Row.isTarget_iff] at htarget
  exact ⟨r, htarget ▸ h.intact.keyed.row?_of_mem hr⟩

/-! ### Statements -/

theorem pairs_tie (t : Tables) (l : Link) : (t.tie l).pairs = Insert.insert l.pair t.pairs := by
  ext p
  rw [Finset.mem_insert, pairs, pairs, List.mem_toFinset, List.mem_toFinset, tie, List.map_append,
    List.mem_append, List.map_singleton, List.mem_singleton]
  exact or_comm

theorem pairs_untie (hid : r.id = cluster.render) :
    (t.untie identity r).pairs = t.pairs.erase (identity, cluster) := by
  ext ⟨i, c⟩
  rw [Finset.mem_erase, mem_pairs, mem_pairs]
  simp only [untie, List.mem_filter, Row.isTarget, hid, Bool.not_eq_true', Bool.and_eq_false_iff,
    decide_eq_false_iff_not, beq_eq_false_iff_ne, Uuid.render_inj, ne_eq, Prod.mk.injEq, not_and]
  constructor
  · rintro ⟨l, ⟨hl, hother⟩, rfl, rfl⟩
    refine ⟨?_, l, hl, rfl, rfl⟩
    intro hi
    rcases hother with hother | hother
    · exact absurd hi hother
    · exact hother
  · rintro ⟨hother, l, hl, rfl, rfl⟩
    refine ⟨l, ⟨hl, ?_⟩, rfl, rfl⟩
    by_cases hi : l.identity = identity
    · exact .inr (hother hi)
    · exact .inl hi

theorem pairs_drop (hid : r.id = cluster.render) :
    (t.drop r).pairs = t.pairs.filter (·.2 ≠ cluster) := by
  ext ⟨i, c⟩
  rw [Finset.mem_filter, mem_pairs, mem_pairs]
  simp only [drop, List.mem_filter, Row.isTarget, hid, Bool.not_eq_true', beq_eq_false_iff_ne,
    Uuid.render_inj, ne_eq]
  constructor
  · rintro ⟨l, ⟨hl, hother⟩, rfl, rfl⟩
    exact ⟨⟨l, hl, rfl, rfl⟩, hother⟩
  · rintro ⟨⟨l, hl, rfl, rfl⟩, hother⟩
    exact ⟨l, ⟨hl, hother⟩, rfl, rfl⟩

/-- There is at most one link between an identity and a row. -/
theorem IsTidy.count_links (h : t.IsTidy) (hid : r.id = cluster.render) :
    (t.links.filter fun l => l.identity = identity && r.isTarget l).length =
      if (identity, cluster) ∈ t.pairs then 1 else 0 := by
  have hcount : (t.links.filter fun l => l.identity = identity && r.isTarget l).length =
      (t.links.map Link.pair).count (identity, cluster) := by
    rw [List.count_eq_countP, List.countP_map, ← List.countP_eq_length_filter]
    refine List.countP_congr fun l _ => ?_
    simp [Row.isTarget, hid, Link.pair, Prod.ext_iff]
  rw [hcount, h.intact.links.count]
  simp [pairs]

end Tables

/-! ### Calls on a database without traps -/

namespace Call

variable {b : Backend} {now : Nat} {t : Tables} {identity cluster : Uuid} {url : String}

theorem delete_reply_eq (hb : b.writable = true) (now : Nat) (t : Tables) (id : Uuid) :
    ((Call.delete id).perform b [] now t).reply = .ok (t.row? id.render).isSome := by
  rw [perform_eq_run hb, run, Tables.delete]
  cases t.row? id.render <;> rfl

theorem link_reply_eq (hb : b.writable = true) {r : Row} (hrow : t.row? cluster.render = some r)
    (hnew : (identity, cluster) ∉ t.pairs) :
    ((Call.link identity cluster).perform b [] now t).reply = .ok ⟨identity, cluster, now⟩ := by
  rw [perform_eq_run hb, run, Tables.link, hrow, Tables.link?_eq_none_iff.2 hnew]
  rfl

theorem unlink_reply_eq (hb : b.writable = true) (h : t.IsTidy) :
    ((Call.unlink identity url).perform b [] now t).reply =
      .ok (match t.clusterAt? url with
        | none => 0
        | some cluster => if (identity, cluster) ∈ t.pairs then 1 else 0) := by
  rw [perform_eq_run hb, run, Tables.unlink]
  cases hrow : t.rowAt? url with
  | none => rw [Tables.clusterAt?_of_none hrow]
  | some r =>
    obtain ⟨c, -, hid⟩ := h.exists_cluster (Tables.rowAt?_eq_some hrow).1
    rw [Tables.clusterAt?_of_rowAt? hrow hid.symm]
    simp only [sprung?, List.find?_nil, Option.map_none, ite_self, h.count_links hid.symm]

/-- **Every call keeps the tables tidy.** -/
theorem isTidy_perform {traps : List Trap} (c : Call α) (h : t.IsTidy) :
    (c.perform b traps now t).tables.IsTidy where
  intact := intact_perform c h.intact
  sound := isSound_perform c h.sound

/-- The rows of an identity are decoded one after another. -/
theorem clustersOf_reply (b : Backend) (traps : List Trap) (now : Nat) (t : Tables) :
    ((Call.clustersOf identity).perform b traps now t).reply = decodeAll (t.rowsOf identity) := by
  simp [perform, writes, run, answer]

end Call

/-! ### Rows and the clusters in them -/

/-- The row can be read, and this is the cluster in it. -/
def Row.Holds (r : Row) (c : Registered) : Prop := r.decode = .ok c

theorem Row.Holds.url_eq {r : Row} {c : Registered} (h : r.Holds c) : c.url = r.url :=
  congrArg Profile.url (profile_of_decode h)

section Decoding

variable {rows : List Row} {cs : List Registered}

theorem exists_holds (h : ∀ r ∈ rows, r.IsSound) : ∃ cs, List.Forall₂ Row.Holds rows cs := by
  induction rows with
  | nil => exact ⟨[], .nil⟩
  | cons r rows ih =>
    obtain ⟨hr, hrows⟩ := List.forall_mem_cons.1 h
    obtain ⟨c, hc, -⟩ := hr.decode
    obtain ⟨cs, hcs⟩ := ih hrows
    exact ⟨c :: cs, .cons hc hcs⟩

theorem urls_of_holds (h : List.Forall₂ Row.Holds rows cs) :
    cs.map (·.url) = rows.map (·.url) := by
  induction h with
  | nil => rfl
  | cons hr _ ih => rw [List.map_cons, List.map_cons, ih, hr.url_eq]

theorem mem_iff_of_holds (h : List.Forall₂ Row.Holds rows cs) (c : Registered) :
    c ∈ cs ↔ ∃ r ∈ rows, r.Holds c := by
  induction h with
  | nil => simp
  | @cons r d rows cs hr _ ih =>
    have hhead : c = d ↔ r.Holds c := by
      rw [Row.Holds, show r.decode = .ok d from hr, Except.ok.injEq, eq_comm]
    simp only [List.mem_cons, ih, hhead, exists_eq_or_imp]

/-- Rows are decoded one after another. -/
theorem Call.decodeAll_cons (r : Row) (rows : List Row) :
    decodeAll (r :: rows) = (do let c ← r.decode; let cs ← decodeAll rows; pure (c :: cs)) :=
  List.mapM_cons ..

theorem Call.decodeAll_of_holds (h : List.Forall₂ Row.Holds rows cs) : decodeAll rows = .ok cs := by
  induction h with
  | nil => rfl
  | @cons r c rows cs hr _ ih =>
    rw [decodeAll_cons, ih, show r.decode = .ok c from hr]
    rfl

end Decoding

/-! ### Listing the clusters of an identity -/

/-- Sound rows hold clusters, at the same URLs. -/
theorem Call.decodeAll_eq_ok {rows : List Row} (h : ∀ r ∈ rows, r.IsSound) :
    ∃ cs, Call.decodeAll rows = .ok cs ∧ cs.map (·.url) = rows.map (·.url) ∧
      ∀ c, c ∈ cs ↔ ∃ r ∈ rows, r.decode = .ok c := by
  obtain ⟨cs, hcs⟩ := exists_holds h
  exact ⟨cs, decodeAll_of_holds hcs, urls_of_holds hcs, mem_iff_of_holds hcs⟩

namespace Tables

variable {t : Tables} {identity : Uuid}

theorem Keyed.pairwise_sorted (h : t.Keyed) : t.sorted.Pairwise fun a b => a.url < b.url := by
  have hperm : t.sorted.Perm t.rows := List.mergeSort_perm _ _
  have hkeys : t.sorted.Pairwise fun a b => a.id ≠ b.id ∧ a.url ≠ b.url :=
    (hperm.pairwise_iff fun {a b} hab => ⟨hab.1.symm, hab.2.symm⟩).2 h
  have hsorted : t.sorted.Pairwise fun a b => a.url ≤ b.url := by
    refine (List.pairwise_mergeSort ?_ ?_ t.rows).imp ?_
    · intro a b c hab hbc
      exact decide_eq_true (String.le_trans (of_decide_eq_true hab) (of_decide_eq_true hbc))
    · intro a b
      simpa using String.le_total a.url b.url
    · intro a b hab
      exact of_decide_eq_true hab
  refine (hsorted.and hkeys).imp ?_
  intro a b hab
  exact lt_of_le_of_ne hab.1 hab.2.2

theorem mem_rowsOf {r : Row} {cluster : Uuid} (hid : r.id = cluster.render) :
    r ∈ t.rowsOf identity ↔ r ∈ t.rows ∧ (identity, cluster) ∈ t.pairs := by
  rw [rowsOf, List.mem_filter, sorted, List.mem_mergeSort, mem_pairs]
  simp [Row.isTarget, hid]

/-- The cluster is stored. -/
def Stores (t : Tables) (c : Registered) : Prop := ∃ r ∈ t.rows, r.decode = .ok c

/-- **The clusters of an identity are those that are related to it**, each once, in the order of
    their URLs. -/
theorem IsTidy.exists_clustersOf (h : t.IsTidy) (identity : Uuid) :
    ∃ cs, Call.decodeAll (t.rowsOf identity) = .ok cs ∧
      cs.Pairwise (fun a b => a.url < b.url) ∧
      ∀ c, c ∈ cs ↔ t.Stores c ∧ (identity, c.id) ∈ t.pairs := by
  have hrows : ∀ r ∈ t.rowsOf identity, r ∈ t.rows := by
    intro r hr
    exact List.mem_mergeSort.1 (List.mem_filter.1 hr).1
  obtain ⟨cs, hcs, hurls, hmem⟩ := Call.decodeAll_eq_ok fun r hr => h.sound r (hrows r hr)
  refine ⟨cs, hcs, ?_, ?_⟩
  · have hascending : (t.rowsOf identity).Pairwise fun a b => a.url < b.url :=
      h.intact.keyed.pairwise_sorted.filter _
    rw [← List.pairwise_map (f := fun c : Registered => c.url) (R := (· < ·)), hurls,
      List.pairwise_map]
    exact hascending
  · intro c
    rw [hmem]
    constructor
    · rintro ⟨r, hr, hdecode⟩
      have hid := (h.sound r (hrows r hr)).render_of_decode hdecode
      exact ⟨⟨r, hrows r hr, hdecode⟩, ((mem_rowsOf hid.symm).1 hr).2⟩
    · rintro ⟨⟨r, hr, hdecode⟩, hpair⟩
      have hid := (h.sound r hr).render_of_decode hdecode
      exact ⟨r, (mem_rowsOf hid.symm).2 ⟨hr, hpair⟩, hdecode⟩

end Tables

end Fleet.Store
