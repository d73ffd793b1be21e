/-
  Fleet/Proofs/Store/Timeless.lean
  ================================
  **Times do not matter, and where nothing fails neither does the backend.**

  Times are written into the tables and given out again, but they hardly ever decide anything.  Every
  statement does the same to tables without times as to the tables themselves
  (`Tables.insert_timeless`, ...), so the answer and the effect of a call are, but for the times in
  them, a matter of the tables without times (`Call.run_timeless`).  One call is an exception, as it
  gives the links of an identity in the order of their times.  It does not tell more than the tables
  without times where every link has been made later than those that are stored before it
  (`Tables.IsDated`, `Tables.IsDated.linksOf`).

  Backends differ in how they report what the database itself refuses.  Without traps that does not
  happen to a call, and so all backends answer alike (`Call.run_backend`).
-/
import Fleet.Proofs.Store.Links

namespace Fleet

/-! ### Forgetting times -/

def Registered.timeless (c : Registered) : Registered := { c with created := 0, updated := 0 }

theorem Registered.toCluster_eq {c c' : Registered} (h : c.timeless = c'.timeless) :
    c.toCluster = c'.toCluster :=
  (congrArg toCluster h :)

namespace Store

def Row.timeless (r : Row) : Row := { r with created := 0, updated := 0 }

def Link.timeless (l : Link) : Link := { l with created := 0 }

def Tables.timeless (t : Tables) : Tables := ⟨t.rows.map Row.timeless, t.links.map Link.timeless⟩

/-- An answer to a call without the times in it. -/
def Call.timeless : Call α → α → α
  | .link _ _ => Link.timeless
  | .loadLink _ _ => Option.map Link.timeless
  | .links _ => List.map Link.timeless
  | .create _ | .save _ => Registered.timeless
  | .load _ | .find _ => Option.map Registered.timeless
  | .list _ | .clustersOf _ => List.map Registered.timeless
  | .delete _ | .unlink _ _ => id

/-- Whether a call asks for links in the order of their times. -/
def Call.asksOrder : Call α → Bool
  | .links _ => true
  | _ => false

/-- Whether a call makes a link. -/
def Call.makesLink : Call α → Bool
  | .link _ _ => true
  | _ => false

def Effect.timeless (c : Call α) (e : Effect α) : Effect α :=
  { e with reply := e.reply.map c.timeless, tables := e.tables.timeless }

section

variable (r : Row) (l : Link)

@[simp] theorem Row.id_timeless : r.timeless.id = r.id := rfl

@[simp] theorem Row.name_timeless : r.timeless.name = r.name := rfl

@[simp] theorem Row.isTarget_timeless : r.timeless.isTarget l.timeless = r.isTarget l := rfl

theorem Row.decode_timeless : r.timeless.decode = r.decode.map Registered.timeless :=
  r.decode_setTimes 0 0

end

/-! ### Reading -/

namespace Tables

variable {t : Tables}

theorem row?_timeless (t : Tables) (id : String) :
    t.timeless.row? id = (t.row? id).map Row.timeless := by
  simp only [row?, timeless, List.find?_map]
  rfl

theorem rowAt?_timeless (t : Tables) (url : String) :
    t.timeless.rowAt? url = (t.rowAt? url).map Row.timeless := by
  simp only [rowAt?, timeless, List.find?_map]
  rfl

theorem link?_timeless (t : Tables) (identity cluster : Uuid) :
    t.timeless.link? identity cluster = (t.link? identity cluster).map Link.timeless := by
  simp only [link?, timeless, List.find?_map]
  rfl

theorem any_rows_timeless {p : Row → Bool} (hp : ∀ r : Row, p r.timeless = p r) (t : Tables) :
    t.timeless.rows.any p = t.rows.any p := by
  simp only [timeless, List.any_map, Function.comp_def, hp]

theorem sorted_timeless (t : Tables) : t.timeless.sorted = t.sorted.map Row.timeless := by
  symm
  apply List.map_mergeSort
  intro a _ b _
  rfl

theorem rowsOf_timeless (t : Tables) (identity : Uuid) :
    t.timeless.rowsOf identity = (t.rowsOf identity).map Row.timeless := by
  rw [rowsOf, rowsOf, sorted_timeless, List.filter_map]
  simp only [timeless, List.any_map]
  rfl

/-! ### Statements -/

section

variable (traps : List Trap) (now : Nat)

theorem insert_timeless (c : Cluster) (t : Tables) :
    t.timeless.insert traps 0 c = (t.insert traps now c).map fun p => (p.1.timeless, p.2.timeless) := by
  unfold insert
  cases sprung? traps .insert c.name with
  | some m => rfl
  | none =>
    rw [any_rows_timeless fun _ => rfl]
    dsimp only
    split
    · rfl
    · simp only [Except.map, timeless, List.map_append]
      rfl

theorem put_timeless (t : Tables) (row : Row) : (t.put row).timeless = t.timeless.put row.timeless := by
  have hrows : ∀ q : Row, (if q.id = row.id then row else q).timeless =
      if q.id = row.id then row.timeless else q.timeless := by
    intro q
    split <;> rfl
  simp only [timeless, put, List.map_map, Function.comp_def, hrows]
  rfl

theorem update_timeless (c : Cluster) (t : Tables) :
    t.timeless.update traps 0 c =
      (t.update traps now c).map (Option.map fun p => (p.1.timeless, p.2.timeless)) := by
  unfold update
  rw [row?_timeless]
  cases t.row? c.id.render with
  | none => rfl
  | some r =>
    cases sprung? traps .update c.name with
    | some m => rfl
    | none =>
      have hany : (t.timeless.rows.any fun q => q.id ≠ r.timeless.id && q.url = c.url) =
          t.rows.any fun q => q.id ≠ r.id && q.url = c.url := any_rows_timeless (fun _ => rfl) t
      have hput := put_timeless t (r.overwrite now c)
      simp only [Option.map_some]
      rw [hany]
      split
      · rfl
      · exact congrArg (fun t => Except.ok (some (r.timeless.overwrite 0 c, t))) hput.symm

theorem drop_timeless (t : Tables) (r : Row) : (t.drop r).timeless = t.timeless.drop r.timeless := by
  simp only [timeless, drop, List.filter_map, Function.comp_def, Row.id_timeless,
    Row.isTarget_timeless]
  rfl

theorem delete_timeless (id : Uuid) (t : Tables) :
    t.timeless.delete traps id = (t.delete traps id).map fun p => (p.1, p.2.timeless) := by
  unfold delete
  rw [row?_timeless]
  cases t.row? id.render with
  | none => rfl
  | some r =>
    simp only [Option.map_some, Row.name_timeless]
    cases sprung? traps .delete r.name with
    | some m => rfl
    | none => exact congrArg (fun t => Except.ok (true, t)) (drop_timeless t r).symm

theorem link_timeless (identity cluster : Uuid) (t : Tables) :
    t.timeless.link traps 0 identity cluster =
      (t.link traps now identity cluster).map fun p => (p.1.timeless, p.2.timeless) := by
  unfold link
  simp only [row?_timeless, link?_timeless, Option.bind_map, Function.comp_def, Row.name_timeless,
    Option.isSome_map, Option.isNone_map]
  split
  · rfl
  · split
    · rfl
    · split
      · rfl
      · simp only [Except.map, timeless, List.map_append]
        rfl

theorem untie_timeless (t : Tables) (identity : Uuid) (r : Row) :
    (t.untie identity r).timeless = t.timeless.untie identity r.timeless := by
  simp only [timeless, untie, List.filter_map, Function.comp_def, Row.isTarget_timeless]
  rfl

theorem unlink_timeless (identity : Uuid) (url : String) (t : Tables) :
    t.timeless.unlink traps identity url =
      (t.unlink traps identity url).map fun p => (p.1, p.2.timeless) := by
  unfold unlink
  rw [rowAt?_timeless]
  cases t.rowAt? url with
  | none => rfl
  | some r =>
    have hgone : (t.timeless.links.filter fun l => l.identity = identity && r.timeless.isTarget l) =
        (t.links.filter fun l => l.identity = identity && r.isTarget l).map Link.timeless := by
      simp only [timeless, List.filter_map, Function.comp_def, Row.isTarget_timeless]
      rfl
    simp only [Option.map_some, hgone, List.isEmpty_map, List.length_map, Row.name_timeless]
    split
    · rfl
    · exact congrArg (fun t => Except.ok (_, t)) (untie_timeless t identity r).symm

end

/-! ### Links in the order of their times -/

/-- Every link was made later than those before it, and none after this time. -/
structure IsDated (clock : Nat) (t : Tables) : Prop where
  ascending : t.links.Pairwise fun a b => a.created < b.created
  past : ∀ l ∈ t.links, l.created ≤ clock

theorem isDated_empty (clock : Nat) : Tables.empty.IsDated clock where
  ascending := .nil
  past := nofun

variable {clock : Nat}

theorem IsDated.linksOf (h : t.IsDated clock) (identity : Uuid) :
    t.linksOf identity = t.links.filter (·.identity = identity) := by
  rw [Tables.linksOf]
  refine List.mergeSort_of_pairwise ((h.ascending.filter _).imp ?_)
  intro a b hab
  simp [Link.before, hab]

theorem IsDated.linksOf_timeless (h : t.IsDated clock) (identity : Uuid) :
    (t.linksOf identity).map Link.timeless = t.timeless.links.filter (·.identity = identity) := by
  rw [h.linksOf, timeless, List.filter_map]
  rfl

/-- Time goes on, and links go away. -/
theorem IsDated.of_sublist {t' : Tables} {clock' : Nat} (h : t.IsDated clock)
    (hlinks : t'.links.Sublist t.links) (hclock : clock ≤ clock') : t'.IsDated clock' where
  ascending := h.ascending.sublist hlinks
  past l hl := le_trans (h.past l (hlinks.subset hl)) hclock

theorem IsDated.tie (h : t.IsDated clock) {l : Link} {clock' : Nat} (hl : clock < l.created)
    (hclock : l.created ≤ clock') : (t.tie l).IsDated clock' where
  ascending := by
    refine List.pairwise_append.2 ⟨h.ascending, List.pairwise_singleton _ _, ?_⟩
    intro a ha b hb
    rw [List.mem_singleton.1 hb]
    exact lt_of_le_of_lt (h.past a ha) hl
  past := by
    refine List.forall_mem_append.2 ⟨?_, List.forall_mem_singleton.2 hclock⟩
    intro a ha
    exact le_trans (h.past a ha) (le_trans hl.le hclock)

end Tables

/-! ### Calls -/

namespace Call

variable {b b' : Backend} {now now' : Nat} {t t' : Tables} {c : Call α}

theorem decode?_timeless (row? : Option Row) :
    decode? (row?.map Row.timeless) = (decode? row?).map (Option.map Registered.timeless) := by
  cases row? with
  | none => rfl
  | some r =>
    rw [Option.map_some, decode?, decode?, r.decode_timeless]
    cases r.decode <;> rfl

theorem decodeAll_timeless (rows : List Row) :
    decodeAll (rows.map Row.timeless) = (decodeAll rows).map (List.map Registered.timeless) := by
  induction rows with
  | nil => rfl
  | cons r rows ih =>
    rw [List.map_cons, decodeAll_cons, decodeAll_cons, ih, r.decode_timeless]
    cases r.decode with
    | error e => rfl
    | ok c => cases decodeAll rows <;> rfl

theorem refuse_timeless (c : Call α) (b : Backend) (t : Tables) (taken : Error) (why : Refusal) :
    (refuse b t taken why).timeless c = refuse b t.timeless taken why := by
  cases why <;> rfl

/-- **What a call comes to is, but for times, a matter of the tables without times.** -/
theorem run_timeless (hc : c.asksOrder = false) (b : Backend) (traps : List Trap) (now : Nat)
    (t : Tables) : (c.run b traps now t).timeless c = c.run b traps 0 t.timeless := by
  cases c with
  | create c =>
    simp only [run, Tables.insert_timeless traps now c t]
    cases t.insert traps now c with
    | error why => exact refuse_timeless _ _ _ _ why
    | ok p =>
      simp only [Effect.timeless, Call.timeless, ← p.1.decode_timeless]
      rfl
  | save c =>
    simp only [run, Tables.update_timeless traps now c t]
    rcases t.update traps now c with why | (_ | p)
    · exact refuse_timeless _ _ _ _ why
    · rfl
    · simp only [Effect.timeless, Call.timeless, ← p.1.decode_timeless]
      rfl
  | load id => simp [run, answer, Effect.timeless, Call.timeless, Tables.row?_timeless, decode?_timeless]
  | find url =>
    simp [run, answer, Effect.timeless, Call.timeless, Tables.rowAt?_timeless, decode?_timeless]
  | delete id =>
    simp only [run, Tables.delete_timeless traps id t]
    cases t.delete traps id with
    | error why => exact refuse_timeless _ _ _ _ why
    | ok p => rfl
  | list kind =>
    rw [run, run, Tables.sorted_timeless, List.filter_map, decodeAll_timeless]
    rfl
  | link identity cluster =>
    simp only [run, Tables.link_timeless traps now identity cluster t]
    rcases t.link traps now identity cluster with (m | _ | _) | p <;> rfl
  | loadLink identity cluster =>
    simp [run, answer, Effect.timeless, Call.timeless, Tables.link?_timeless, Except.map]
  | unlink identity url =>
    simp only [run, Tables.unlink_timeless traps identity url t]
    cases t.unlink traps identity url with
    | error why => exact refuse_timeless _ _ _ _ why
    | ok p => rfl
  | links identity => cases hc
  | clustersOf identity =>
    simp [run, answer, Effect.timeless, Call.timeless, Tables.rowsOf_timeless, decodeAll_timeless]

/-- **Without traps the backend does not matter.** -/
theorem run_backend (c : Call α) (b b' : Backend) (now : Nat) (t : Tables) :
    c.run b [] now t = c.run b' [] now t := by
  cases c with
  | create c =>
    simp only [run, Tables.insert, sprung?, List.find?_nil, Option.map_none]
    split_ifs <;> rfl
  | save c =>
    simp only [run, Tables.update, sprung?, List.find?_nil, Option.map_none]
    cases t.row? c.id.render with
    | none => rfl
    | some r =>
      dsimp only
      split_ifs <;> rfl
  | delete id =>
    simp only [run, Tables.delete, sprung?, List.find?_nil, Option.map_none]
    cases t.row? id.render <;> rfl
  | link identity cluster =>
    simp only [run, Tables.link, sprung?, List.find?_nil, Option.map_none]
    cases t.row? cluster.render with
    | none | some r =>
      dsimp only [Option.bind]
      split_ifs <;> rfl
  | unlink identity url =>
    simp only [run, Tables.unlink, sprung?, List.find?_nil, Option.map_none, ite_self]
    cases t.rowAt? url <;> rfl
  | load _ | find _ | list _ | loadLink _ _ | links _ | clustersOf _ => rfl

theorem perform_timeless (hb : b.writable = true) (hb' : b'.writable = true)
    (ht : t.timeless = t'.timeless) (hc : c.asksOrder = false) :
    (c.perform b [] now t).timeless c = (c.perform b' [] now' t').timeless c := by
  rw [perform_eq_run hb, perform_eq_run hb', run_timeless hc, run_timeless hc, ht, run_backend c b b']

theorem links_timeless {clock clock' : Nat} (h : t.IsDated clock) (h' : t'.IsDated clock')
    (ht : t.timeless = t'.timeless) (identity : Uuid) :
    ((Call.links identity).perform b [] now t).timeless (.links identity) =
      ((Call.links identity).perform b' [] now' t').timeless (.links identity) := by
  have hlinks : (t.linksOf identity).map Link.timeless = (t'.linksOf identity).map Link.timeless := by
    rw [h.linksOf_timeless, h'.linksOf_timeless, ht]
  simp [perform, writes, run, answer, Effect.timeless, Call.timeless, Except.map, hlinks, ht]

theorem links_effect (hc : c.makesLink = false) (now : Nat) (t : Tables) :
    (c.effect now t).links.Sublist t.links := by
  cases c with
  | link _ _ => cases hc
  | create _ => exact List.Sublist.refl _
  | save c =>
    simp only [effect]
    split <;> exact List.Sublist.refl _
  | delete id =>
    simp only [effect]
    split
    · exact List.Sublist.refl _
    · exact List.filter_sublist
  | unlink identity url =>
    simp only [effect]
    split
    · exact List.Sublist.refl _
    · exact List.filter_sublist
  | load _ | find _ | list _ | loadLink _ _ | links _ | clustersOf _ => exact List.Sublist.refl _

/-- A call at a later time dates what it makes later. -/
theorem isDated_effect {clock : Nat} (c : Call α) (h : t.IsDated clock) (hnow : clock < now) :
    (c.effect now t).IsDated now := by
  cases hc : c.makesLink with
  | false => exact h.of_sublist (links_effect hc now t) hnow.le
  | true =>
    cases c with
    | link identity cluster => exact h.tie hnow (le_refl _)
    | create _ | save _ | load _ | find _ | delete _ | list _ | loadLink _ _ | unlink _ _ | links _
    | clustersOf _ => cases hc

end Call

end Store

end Fleet
