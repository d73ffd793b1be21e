/-
  Fleet/Proofs/Store/Effects.lean
  ===============================
  **What a call leaves behind in the tables.**

  `Call.effect` says what a call does to the tables when nothing stands in its way: it knows
  neither traps nor taken keys.  The statements of `Store.Tables` do look at those.  When a
  statement goes through, and what it does then, is stated once for each of them
  (`insert_eq_ok_iff`, `update_eq_ok_some_iff`, ...).  It follows that

    * a call that is answered has exactly its effect    (`perform_tables_of_ok`);
    * a call that fails leaves the tables as they were  (`perform_tables_of_error`);
    * a call of which the database refuses a statement fails  (`perform_refused`).

  The second one needs that a row which has just been written can be read again
  (`Row.decode_ofCluster`, `Row.decode_overwrite`): otherwise a call could write a row and
  then fail on reading it back.
-/
import Fleet.Proofs.Identifiers
import Fleet.Store.Call

namespace Fleet

@[simp] theorem Kind.ofName?_name (k : Kind) : Kind.ofName? k.name = some k := by
  cases k <;> rfl

namespace Store

/-! ### Rows that the registry writes -/

namespace Row

@[simp] theorem decode_ofCluster (now : Nat) (c : Cluster) :
    (ofCluster now c).decode = .ok ⟨c, now, now⟩ := by
  simp [decode, ofCluster]

theorem decode_overwrite {r : Row} (now : Nat) {c : Cluster} (h : r.id = c.id.render) :
    (r.overwrite now c).decode = .ok ⟨c, r.created, now⟩ := by
  simp [decode, overwrite, h]

/-- The times of a row are read as they are, and do not count for anything else. -/
theorem decode_setTimes (r : Row) (created updated : Nat) :
    decode { r with created, updated } = r.decode.map fun c => { c with created, updated } := by
  simp only [decode]
  cases Uuid.parse r.id with
  | error why => rfl
  | ok id => cases Kind.ofName? r.kind <;> rfl

end Row

/-! ### Statements -/

namespace Tables

variable {traps : List Trap} {now : Nat} {t : Tables}

theorem row?_eq_some {id : String} {r : Row} (h : t.row? id = some r) : r ∈ t.rows ∧ r.id = id :=
  ⟨List.mem_of_find?_eq_some h, by simpa using List.find?_some h⟩

theorem rowAt?_eq_some {url : String} {r : Row} (h : t.rowAt? url = some r) :
    r ∈ t.rows ∧ r.url = url :=
  ⟨List.mem_of_find?_eq_some h, by simpa using List.find?_some h⟩

def add (t : Tables) (row : Row) : Tables := { t with rows := t.rows ++ [row] }

/-- The tables with a row in the place of the one with its identifier. -/
def put (t : Tables) (row : Row) : Tables :=
  { t with rows := t.rows.map fun q => if q.id = row.id then row else q }

/-- The tables without a row and the links to it. -/
def drop (t : Tables) (r : Row) : Tables :=
  { rows := t.rows.filter (·.id ≠ r.id), links := t.links.filter (!r.isTarget ·) }

def tie (t : Tables) (l : Link) : Tables := { t with links := t.links ++ [l] }

/-- The tables without the link of an identity to a row. -/
def untie (t : Tables) (identity : Uuid) (r : Row) : Tables :=
  { t with links := t.links.filter fun l => !(l.identity = identity && r.isTarget l) }

theorem insert_eq_ok_iff {c : Cluster} {p : Row × Tables} :
    t.insert traps now c = .ok p ↔
      sprung? traps .insert c.name = none ∧
        (∀ r ∈ t.rows, r.id ≠ c.id.render ∧ r.url ≠ c.url) ∧
        p = (Row.ofCluster now c, t.add (Row.ofCluster now c)) := by
  unfold insert
  cases sprung? traps .insert c.name with
  | some m => simp
  | none =>
    by_cases h : (t.rows.any fun r => r.id = c.id.render || r.url = c.url) = true
    · have : ¬ ∀ r ∈ t.rows, r.id ≠ c.id.render ∧ r.url ≠ c.url := by
        obtain ⟨r, hr, hk⟩ := List.any_eq_true.1 h
        intro hall
        obtain ⟨hid, hurl⟩ := hall r hr
        simp [hid, hurl] at hk
      simp only [h, if_true, reduceCtorEq, this, false_and, and_false]
    · have hfree : ∀ r ∈ t.rows, r.id ≠ c.id.render ∧ r.url ≠ c.url := by
        simpa using h
      simp only [h, Bool.false_eq_true, if_false, Except.ok.injEq, true_and, add]
      exact ⟨fun e => ⟨hfree, e.symm⟩, fun e => e.2.symm⟩

theorem update_eq_ok_none_iff {c : Cluster} :
    t.update traps now c = .ok none ↔ t.row? c.id.render = none := by
  unfold update
  cases t.row? c.id.render with
  | none => simp
  | some r =>
    simp only [reduceCtorEq, iff_false]
    split
    · simp
    · split <;> simp

theorem update_eq_ok_some_iff {c : Cluster} {p : Row × Tables} :
    t.update traps now c = .ok (some p) ↔
      ∃ r, t.row? c.id.render = some r ∧ sprung? traps .update c.name = none ∧
        (∀ q ∈ t.rows, q.id ≠ r.id → q.url ≠ c.url) ∧
        p = (r.overwrite now c, t.put (r.overwrite now c)) := by
  unfold update
  cases t.row? c.id.render with
  | none => simp
  | some r =>
    simp only [Option.some.injEq, exists_eq_left']
    cases sprung? traps .update c.name with
    | some m => simp
    | none =>
      by_cases h : (t.rows.any fun q => q.id ≠ r.id && q.url = c.url) = true
      · have : ¬ ∀ q ∈ t.rows, q.id ≠ r.id → q.url ≠ c.url := by
          obtain ⟨q, hq, hk⟩ := List.any_eq_true.1 h
          simp only [Bool.and_eq_true, decide_eq_true_eq] at hk
          exact fun hall => hall q hq hk.1 hk.2
        simp only [h, if_true, reduceCtorEq, this, false_and, and_false]
      · have hfree : ∀ q ∈ t.rows, q.id ≠ r.id → q.url ≠ c.url := by
          simpa using h
        simp only [h, Bool.false_eq_true, if_false, Except.ok.injEq, Option.some.injEq, true_and, put,
          Row.overwrite]
        exact ⟨fun e => ⟨hfree, e.symm⟩, fun e => e.2.symm⟩

theorem delete_eq_ok {id : Uuid} {p : Bool × Tables} (h : t.delete traps id = .ok p) :
    p = match t.row? id.render with
      | none => (false, t)
      | some r => (true, t.drop r) := by
  unfold delete at h
  cases hr : t.row? id.render with
  | none => simpa [hr] using h.symm
  | some r =>
    simp only [hr] at h
    split at h
    · cases h
    · simpa [drop] using h.symm

theorem link_eq_ok {identity cluster : Uuid} {p : Link × Tables}
    (h : t.link traps now identity cluster = .ok p) :
    p = (⟨identity, cluster, now⟩, t.tie ⟨identity, cluster, now⟩) := by
  unfold link at h
  split at h
  · cases h
  · split at h
    · cases h
    · split at h
      · cases h
      · simpa [tie] using h.symm

theorem unlink_eq_ok {identity : Uuid} {url : String} {p : Nat × Tables}
    (h : t.unlink traps identity url = .ok p) :
    p.2 = match t.rowAt? url with
      | none => t
      | some r => t.untie identity r := by
  unfold unlink at h
  cases hr : t.rowAt? url with
  | none =>
    simp only [hr, Except.ok.injEq] at h
    rw [← h]
  | some r =>
    simp only [hr] at h
    split at h
    · cases h
    · simp only [Except.ok.injEq] at h
      rw [← h]
      rfl

end Tables

/-! ### Effects of calls -/

namespace Call

/-- What a call does to the tables at a time, if nothing stands in its way. -/
def effect (now : Nat) (t : Tables) : Call α → Tables
  | .create c => t.add (Row.ofCluster now c)
  | .save c =>
    match t.row? c.id.render with
    | none => t
    | some r => t.put (r.overwrite now c)
  | .delete id =>
    match t.row? id.render with
    | none => t
    | some r => t.drop r
  | .link identity cluster => t.tie ⟨identity, cluster, now⟩
  | .unlink identity url =>
    match t.rowAt? url with
    | none => t
    | some r => t.untie identity r
  | .load _ | .find _ | .list _ | .loadLink _ _ | .links _ | .clustersOf _ => t

/-- What a call came to: it was answered and had its effect, or it failed and changed
    nothing. -/
def Faithful (now : Nat) (t : Tables) (c : Call α) (e : Effect α) : Prop :=
  match e.reply with
  | .ok _ => e.tables = c.effect now t ∧ e.refused = false
  | .error _ => e.tables = t ∧ e.dooms = false

variable {b : Backend} {traps : List Trap} {now : Nat} {t : Tables}

theorem faithful_refuse (c : Call α) (taken : Error) (why : Refusal) :
    Faithful now t c (refuse b t taken why) := by
  cases why <;> exact ⟨rfl, rfl⟩

theorem faithful_answer {c : Call α} (hc : c.effect now t = t) (reply : Except Error α) :
    Faithful now t c (answer t reply) := by
  cases reply with
  | ok a => exact ⟨hc.symm, rfl⟩
  | error e => exact ⟨rfl, rfl⟩

theorem faithful_run (c : Call α) : Faithful now t c (c.run b traps now t) := by
  cases c with
  | create c =>
    simp only [run]
    split
    · exact faithful_refuse _ _ _
    · rename_i row t' h
      obtain ⟨-, -, hp⟩ := Tables.insert_eq_ok_iff.1 h
      cases hp
      simp [Faithful, effect]
  | save c =>
    simp only [run]
    split
    · exact faithful_refuse _ _ _
    · exact ⟨rfl, rfl⟩
    · rename_i row t' h
      obtain ⟨r, hr, -, -, hp⟩ := Tables.update_eq_ok_some_iff.1 h
      cases hp
      simp [Faithful, effect, hr, Row.decode_overwrite now (Tables.row?_eq_some hr).2]
  | delete id =>
    simp only [run]
    split
    · exact faithful_refuse _ _ _
    · rename_i found t' h
      have hp := Tables.delete_eq_ok h
      refine ⟨?_, rfl⟩
      simp only [effect]
      cases hr : t.row? id.render <;> simp [hr] at hp ⊢ <;> exact hp.2
  | link identity cluster =>
    simp only [run]
    split
    · exact faithful_refuse _ _ _
    · exact faithful_refuse _ _ _
    · rename_i l t' h
      cases Tables.link_eq_ok h
      exact ⟨rfl, rfl⟩
  | unlink identity url =>
    simp only [run]
    split
    · exact faithful_refuse _ _ _
    · rename_i n t' h
      exact ⟨Tables.unlink_eq_ok h, rfl⟩
  | load _ | find _ | list _ | loadLink _ _ | links _ | clustersOf _ =>
    exact faithful_answer rfl _

theorem faithful_perform (b : Backend) (traps : List Trap) (now : Nat) (t : Tables) (c : Call α) :
    Faithful now t c (c.perform b traps now t) := by
  unfold perform
  split
  · exact ⟨rfl, rfl⟩
  · exact faithful_run c

/-- **A call that is answered has exactly its effect.** -/
theorem perform_tables_of_ok {c : Call α} {a : α} (h : (c.perform b traps now t).reply = .ok a) :
    (c.perform b traps now t).tables = c.effect now t := by
  have := faithful_perform b traps now t c
  simp only [Faithful, h] at this
  exact this.1

/-- **A call that fails changes nothing.** -/
theorem perform_tables_of_error {c : Call α} {e : Error}
    (h : (c.perform b traps now t).reply = .error e) : (c.perform b traps now t).tables = t := by
  have := faithful_perform b traps now t c
  simp only [Faithful, h] at this
  exact this.1

theorem perform_refused {c : Call α} (h : (c.perform b traps now t).refused = true) :
    ∃ e, (c.perform b traps now t).reply = .error e := by
  have hf := faithful_perform b traps now t c
  cases hr : (c.perform b traps now t).reply with
  | error e => exact ⟨e, rfl⟩
  | ok a =>
    simp only [Faithful, hr] at hf
    rw [h] at hf
    cases hf.2

end Call

end Store

end Fleet
