/-
  Fleet/Proofs/Store/Keys.lean
  ============================
  **The unique keys of the tables, and what an answer rests on.**

  No two rows have one identifier or one URL (`Tables.Keyed`): a statement that would break
  this is refused, so every call keeps it (`Call.keyed_perform`).  Rows that the registry has
  written hold a cluster (`Row.IsSound`), and every call keeps that as well
  (`Call.isSound_perform`).

  With unique keys a look-up by URL finds all there is to find, so the rows at a URL are none or
  one (`Tables.Keyed.rowsAt_of_rowAt?`), and overwriting one of them does not touch any other
  (`Tables.Keyed.filter_put`).

  `Call.find_reply`, `Call.save_reply_iff` and `Call.create_reply_iff` say when these three
  calls are answered.
-/
import Mathlib.Data.List.Pairwise
import Fleet.Proofs.Store.Effects

namespace Fleet.Store

/-! ### Rows that hold a cluster -/

/-- A row as the registry writes it: its identifier and its kind are texts of the usual form. -/
def Row.IsSound (r : Row) : Prop := ∃ (id : Uuid) (k : Kind), r.id = id.render ∧ r.kind = k.name

theorem Row.isSound_ofCluster (now : Nat) (c : Cluster) : (Row.ofCluster now c).IsSound :=
  ⟨c.id, c.kind, rfl, rfl⟩

theorem Row.IsSound.overwrite {r : Row} (h : r.IsSound) (now : Nat) (c : Cluster) :
    (r.overwrite now c).IsSound :=
  h.imp fun _ ⟨_, hid, _⟩ => ⟨c.kind, hid, rfl⟩

/-- A row is decoded by parsing its identifier and its kind, and everything else is read as it is. -/
theorem Row.decode_eq_ok_iff {r : Row} {c : Registered} :
    r.decode = .ok c ↔
      Uuid.parse r.id = .ok c.id ∧ Kind.ofName? r.kind = some c.kind ∧
        c.toProfile = r.toProfile ∧ c.created = r.created ∧ c.updated = r.updated := by
  constructor
  · intro h
    unfold Row.decode at h
    split at h
    · cases h
    · rename_i id hid
      split at h
      · cases h
      · rename_i kind hkind
        rw [← Except.ok.inj h]
        exact ⟨hid, hkind, rfl, rfl, rfl⟩
  · rintro ⟨hid, hkind, hprofile, hcreated, hupdated⟩
    simp only [Row.decode, hid, hkind, ← hprofile, ← hcreated, ← hupdated]

theorem Row.profile_of_decode {r : Row} {c : Registered} (h : r.decode = .ok c) :
    c.toProfile = r.toProfile :=
  (decode_eq_ok_iff.1 h).2.2.1

theorem Row.times_of_decode {r : Row} {c : Registered} (h : r.decode = .ok c) :
    c.created = r.created ∧ c.updated = r.updated :=
  (decode_eq_ok_iff.1 h).2.2.2

theorem Row.kind_of_decode {r : Row} {c : Registered} (h : r.decode = .ok c) :
    c.kind.name = r.kind := by
  have hname := List.find?_some (decode_eq_ok_iff.1 h).2.1
  exact of_decide_eq_true hname

theorem Row.IsSound.decode {r : Row} (h : r.IsSound) :
    ∃ c, r.decode = .ok c ∧ c.id.render = r.id := by
  obtain ⟨id, kind, hid, hkind⟩ := h
  refine ⟨{ r.toProfile with kind, id, created := r.created, updated := r.updated }, ?_, hid.symm⟩
  apply decode_eq_ok_iff.2
  rw [hid, hkind]
  exact ⟨Uuid.parse_render id, Kind.ofName?_name kind, rfl, rfl, rfl⟩

theorem Row.isSound_of_decode {r : Row} {c : Registered} (h : r.decode = .ok c)
    (hid : c.id.render = r.id) : r.IsSound :=
  ⟨c.id, c.kind, hid.symm, (kind_of_decode h).symm⟩

namespace Tables

variable {t : Tables} {r row : Row}

/-! ### Unique keys -/

/-- No two rows have one identifier or one URL. -/
def Keyed (t : Tables) : Prop := t.rows.Pairwise fun a b => a.id ≠ b.id ∧ a.url ≠ b.url

theorem keyed_empty : Tables.empty.Keyed := List.Pairwise.nil

theorem Keyed.ne (h : t.Keyed) {a b : Row} (ha : a ∈ t.rows) (hb : b ∈ t.rows) (hne : a ≠ b) :
    a.id ≠ b.id ∧ a.url ≠ b.url :=
  have : Std.Symm fun a b : Row => a.id ≠ b.id ∧ a.url ≠ b.url :=
    ⟨fun _ _ hab => ⟨hab.1.symm, hab.2.symm⟩⟩
  List.Pairwise.forall h ha hb hne

theorem Keyed.eq_of_id (h : t.Keyed) {a b : Row} (ha : a ∈ t.rows) (hb : b ∈ t.rows)
    (hid : a.id = b.id) : a = b :=
  Decidable.byContradiction fun hne => (h.ne ha hb hne).1 hid

theorem Keyed.eq_of_url (h : t.Keyed) {a b : Row} (ha : a ∈ t.rows) (hb : b ∈ t.rows)
    (hurl : a.url = b.url) : a = b :=
  Decidable.byContradiction fun hne => (h.ne ha hb hne).2 hurl

theorem Keyed.row?_of_mem (h : t.Keyed) (hr : r ∈ t.rows) : t.row? r.id = some r := by
  cases hf : t.row? r.id with
  | none =>
    have := List.find?_eq_none.1 hf r hr
    simp at this
  | some q =>
    obtain ⟨hq, hid⟩ := row?_eq_some hf
    rw [h.eq_of_id hq hr hid]

theorem Keyed.rowAt?_of_mem (h : t.Keyed) (hr : r ∈ t.rows) : t.rowAt? r.url = some r := by
  cases hf : t.rowAt? r.url with
  | none =>
    have := List.find?_eq_none.1 hf r hr
    simp at this
  | some q =>
    obtain ⟨hq, hurl⟩ := rowAt?_eq_some hf
    rw [h.eq_of_url hq hr hurl]

theorem Keyed.add (h : t.Keyed) (hfree : ∀ r ∈ t.rows, r.id ≠ row.id ∧ r.url ≠ row.url) :
    (t.add row).Keyed :=
  List.pairwise_append.2 ⟨h, List.pairwise_singleton _ _, fun a ha b hb => by
    rw [List.mem_singleton.1 hb]
    exact hfree a ha⟩

theorem Keyed.put (h : t.Keyed) (hfree : ∀ q ∈ t.rows, q.id ≠ row.id → q.url ≠ row.url) :
    (t.put row).Keyed := by
  refine List.pairwise_map.2 (h.imp_of_mem fun {a b} ha hb hab => ?_)
  by_cases hra : a.id = row.id
  · have hrb : b.id ≠ row.id := fun e => hab.1 (hra.trans e.symm)
    rw [if_pos hra, if_neg hrb]
    exact ⟨hrb.symm, (hfree b hb hrb).symm⟩
  · rw [if_neg hra]
    by_cases hrb : b.id = row.id
    · rw [if_pos hrb]
      exact ⟨hra, hfree a ha hra⟩
    · rw [if_neg hrb]
      exact hab

/-- A row may take the place of the one at its own URL. -/
theorem Keyed.replace (h : t.Keyed) (hr : t.rowAt? row.url = some r) (hid : r.id = row.id) :
    (t.put row).Keyed := by
  obtain ⟨hmem, hurl⟩ := rowAt?_eq_some hr
  refine h.put fun q hq hne he => ?_
  have hne' : q ≠ r := fun e => hne (e ▸ hid)
  exact (h.ne hq hmem hne').2 (he.trans hurl.symm)

theorem Keyed.drop (h : t.Keyed) (r : Row) : (t.drop r).Keyed := h.filter _

/-! ### Rows by their URLs -/

def rowsAt (t : Tables) (url : String) : List Row := t.rows.filter (·.url = url)

/-- The rows at none of these URLs. -/
def away (t : Tables) (urls : List String) : List Row := t.rows.filter (·.url ∉ urls)

theorem mem_rowsAt {url : String} : r ∈ t.rowsAt url ↔ r ∈ t.rows ∧ r.url = url := by
  simp [rowsAt]

theorem rowsAt_eq_nil_iff {url : String} : t.rowsAt url = [] ↔ t.rowAt? url = none := by
  simp [rowsAt, rowAt?]

theorem head?_rowsAt (t : Tables) (url : String) : (t.rowsAt url).head? = t.rowAt? url :=
  List.head?_filter

theorem isEmpty_rowsAt {url : String} (hr : t.rowAt? url = some r) :
    (t.rowsAt url).isEmpty = false :=
  List.isEmpty_eq_false_iff_exists_mem.2 ⟨r, mem_rowsAt.2 (rowAt?_eq_some hr)⟩

/-- With unique keys, the row that a look-up by URL finds is the only one there. -/
theorem Keyed.rowsAt_of_rowAt? (h : t.Keyed) {url : String} (hr : t.rowAt? url = some r) :
    t.rowsAt url = [r] := by
  obtain ⟨hmem, hurl⟩ := rowAt?_eq_some hr
  have honly : ∀ q ∈ t.rowsAt url, q = r := by
    intro q hq
    obtain ⟨hq, hqurl⟩ := mem_rowsAt.1 hq
    by_contra hne
    exact (h.ne hq hmem hne).2 (hqurl.trans hurl.symm)
  have hnodup : (t.rowsAt url).Nodup :=
    (List.Pairwise.filter _ h).imp fun hab he => hab.1 (congrArg Row.id he)
  have hin : r ∈ t.rowsAt url := mem_rowsAt.2 ⟨hmem, hurl⟩
  exact List.perm_singleton.1
    ((List.perm_ext_iff_of_nodup hnodup (List.pairwise_singleton _ r)).2 fun q =>
      ⟨fun hq => List.mem_singleton.2 (honly q hq), fun hq => List.mem_singleton.1 hq ▸ hin⟩)

section Elsewhere

variable {P : String → Bool}

theorem filter_add (hP : P row.url = false) :
    ((t.add row).rows.filter fun q => P q.url) = t.rows.filter fun q => P q.url := by
  simp [add, hP]

theorem Keyed.filter_put (h : t.Keyed) (hr : t.rowAt? row.url = some r) (hid : r.id = row.id)
    (hP : P row.url = false) :
    ((t.put row).rows.filter fun q => P q.url) = t.rows.filter fun q => P q.url := by
  obtain ⟨hmem, hurl⟩ := rowAt?_eq_some hr
  have hplace : ∀ q ∈ t.rows, q.id = row.id → P q.url = false := by
    intro q hq hqid
    rw [h.eq_of_id hq hmem (hqid.trans hid.symm), hurl]
    exact hP
  simp only [Tables.put]
  generalize t.rows = rows at hplace
  induction rows with
  | nil => rfl
  | cons q rows ih =>
    have ih := ih fun q' hq' => hplace q' (List.mem_cons_of_mem _ hq')
    by_cases hq : q.id = row.id
    · simp [hq, hP, hplace q List.mem_cons_self hq, ih]
    · simp [hq, List.filter_cons, ih]

end Elsewhere

theorem rowsAt_add (hr : t.rowAt? row.url = none) : (t.add row).rowsAt row.url = [row] := by
  rw [← rowsAt_eq_nil_iff] at hr
  simp only [rowsAt] at hr
  simp [rowsAt, add, hr]

theorem Keyed.rowsAt_put (h : t.Keyed) (hr : t.rowAt? row.url = some r) (hid : r.id = row.id) :
    (t.put row).rowsAt row.url = [row] := by
  have hkeyed := h.replace hr hid
  have hin : row ∈ (t.put row).rows :=
    List.mem_map.2 ⟨r, (rowAt?_eq_some hr).1, if_pos hid⟩
  cases hf : (t.put row).rowAt? row.url with
  | none =>
    have := List.find?_eq_none.1 hf row hin
    simp at this
  | some q =>
    obtain ⟨hq, hqurl⟩ := rowAt?_eq_some hf
    have : q = row := Decidable.byContradiction fun hne => (hkeyed.ne hq hin hne).2 hqurl
    rw [hkeyed.rowsAt_of_rowAt? hf, this]

end Tables

/-! ### What an answer rests on -/

namespace Call

variable {b : Backend} {traps : List Trap} {now : Nat} {t : Tables}

/-- On tables that may be changed a call simply runs. -/
theorem perform_eq_run (hb : b.writable = true) (traps : List Trap) (now : Nat) (t : Tables)
    (c : Call α) : c.perform b traps now t = c.run b traps now t := by
  simp [perform, hb]

@[simp] theorem find_reply (url : String) :
    ((Call.find url).perform b traps now t).reply = decode? (t.rowAt? url) := by
  simp [perform, writes, run, answer]

/-- A creation is answered when nothing keeps the row from being added. -/
theorem create_reply_iff {c : Cluster} {a : Registered} :
    ((Call.create c).perform b traps now t).reply = .ok a ↔
      b.writable = true ∧ sprung? traps .insert c.name = none ∧
        (∀ r ∈ t.rows, r.id ≠ c.id.render ∧ r.url ≠ c.url) ∧ a = ⟨c, now, now⟩ := by
  unfold perform
  cases hw : b.writable with
  | false => simp [writes]
  | true =>
    simp only [writes, Bool.not_true, Bool.and_false, Bool.false_eq_true, if_false, true_and, run]
    cases hi : t.insert traps now c with
    | error why =>
      have : ¬ (sprung? traps .insert c.name = none ∧
          ∀ r ∈ t.rows, r.id ≠ c.id.render ∧ r.url ≠ c.url) := by
        rintro ⟨hs, hfree⟩
        rw [Tables.insert_eq_ok_iff.2 ⟨hs, hfree, rfl⟩] at hi
        cases hi
      rw [← and_assoc]
      cases why <;> simp [refuse, this]
    | ok p =>
      obtain ⟨hs, hfree, hp⟩ := Tables.insert_eq_ok_iff.1 hi
      cases hp
      simp only [Row.decode_ofCluster, Except.ok.injEq, hs, true_and]
      exact ⟨fun e => ⟨hfree, e.symm⟩, fun e => e.2.symm⟩

/-- Saving is answered when there is a row to overwrite and nothing keeps it from being
    overwritten.  The row keeps its time of creation. -/
theorem save_reply_iff {c : Cluster} {a : Registered} :
    ((Call.save c).perform b traps now t).reply = .ok a ↔
      b.writable = true ∧
        ∃ r, t.row? c.id.render = some r ∧ sprung? traps .update c.name = none ∧
          (∀ q ∈ t.rows, q.id ≠ r.id → q.url ≠ c.url) ∧ a = ⟨c, r.created, now⟩ := by
  unfold perform
  cases hw : b.writable with
  | false => simp [writes]
  | true =>
    simp only [writes, Bool.not_true, Bool.and_false, Bool.false_eq_true, if_false, true_and, run]
    rcases hu : t.update traps now c with why | (_ | p)
    · have : ¬ ∃ r, t.row? c.id.render = some r ∧ sprung? traps .update c.name = none ∧
          (∀ q ∈ t.rows, q.id ≠ r.id → q.url ≠ c.url) ∧ a = ⟨c, r.created, now⟩ := by
        rintro ⟨r, hr, hs, hfree, -⟩
        rw [Tables.update_eq_ok_some_iff.2 ⟨r, hr, hs, hfree, rfl⟩] at hu
        cases hu
      cases why <;> simp only [refuse, reduceCtorEq, this]
    · have := Tables.update_eq_ok_none_iff.1 hu
      simp [answer, this]
    · obtain ⟨r, hr, hs, hfree, hp⟩ := Tables.update_eq_ok_some_iff.1 hu
      cases hp
      simp only [Row.decode_overwrite now (Tables.row?_eq_some hr).2, Except.ok.injEq]
      constructor
      · intro h
        exact ⟨r, hr, hs, hfree, h.symm⟩
      · rintro ⟨r', hr', -, -, rfl⟩
        cases hr.symm.trans hr'
        rfl

theorem dooms_refuse (taken : Error) (why : Refusal) :
    (refuse b t taken why : Effect α).dooms = false := by
  cases why <;> rfl

theorem dooms_perform (c : Call α) : (c.perform b [] now t).dooms = false := by
  unfold perform
  split
  · rfl
  · cases c with
    | load _ | find _ | list _ | loadLink _ _ | links _ | clustersOf _ => rfl
    | create _ | save _ | delete _ | link _ _ | unlink _ _ =>
      simp only [run]
      split <;> first | rfl | exact dooms_refuse _ _

/-! ### What every call keeps -/

/-- **Every call keeps the keys unique.** -/
theorem keyed_perform (c : Call α) (h : t.Keyed) : (c.perform b traps now t).tables.Keyed := by
  cases hr : (c.perform b traps now t).reply with
  | error e =>
    rw [perform_tables_of_error hr]
    exact h
  | ok a =>
    rw [perform_tables_of_ok hr]
    cases c with
    | create c => exact h.add (create_reply_iff.1 hr).2.2.1
    | save c =>
      obtain ⟨-, r, hrow, -, hfree, -⟩ := save_reply_iff.1 hr
      simp only [effect, hrow]
      exact h.put hfree
    | delete id =>
      simp only [effect]
      split
      · exact h
      · exact h.drop _
    | unlink identity url =>
      simp only [effect]
      split <;> exact h
    | load _ | find _ | list _ | link _ _ | loadLink _ _ | links _ | clustersOf _ => exact h

/-- **Every call keeps the rows sound.** -/
theorem isSound_perform (c : Call α) (h : ∀ r ∈ t.rows, r.IsSound) :
    ∀ r ∈ (c.perform b traps now t).tables.rows, r.IsSound := by
  cases hr : (c.perform b traps now t).reply with
  | error e =>
    rw [perform_tables_of_error hr]
    exact h
  | ok a =>
    rw [perform_tables_of_ok hr]
    cases c with
    | create c =>
      intro r hrow
      rcases List.mem_append.1 hrow with hrow | hrow
      · exact h r hrow
      · rw [List.mem_singleton.1 hrow]
        exact Row.isSound_ofCluster now c
    | save c =>
      obtain ⟨-, old, hold, -⟩ := save_reply_iff.1 hr
      simp only [effect, hold]
      intro r hrow
      obtain ⟨q, hq, rfl⟩ := List.mem_map.1 hrow
      split
      · exact (h old (Tables.row?_eq_some hold).1).overwrite now c
      · exact h q hq
    | delete id =>
      simp only [effect]
      split
      · exact h
      · exact fun r hrow => h r (List.mem_filter.1 hrow).1
    | unlink identity url =>
      simp only [effect]
      split <;> exact h
    | load _ | find _ | list _ | link _ _ | loadLink _ _ | links _ | clustersOf _ => exact h

end Call

end Fleet.Store
