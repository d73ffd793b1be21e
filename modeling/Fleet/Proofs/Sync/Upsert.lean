/-
  Fleet/Proofs/Sync/Upsert.lean
  =============================
  **What writing one definition does.**

  `Written` says what has become of the row at the URL of a definition.  Where there was one it
  is there still, with its identifier and its time of creation; where there was none there is
  one now, with an identifier of its own.  `Upserted` adds what has become of all the others:
  nothing.

  `Sync.upsert` either fails with the answer of the call that failed, or has upserted its
  definition (`upsert_cases`).  On a database that nobody has tampered with it does not fail
  (`upsert_succeeds`).
-/
import Fleet.Proofs.Store.Keys
import Fleet.Proofs.Work.Composition
import Fleet.Sync

namespace Fleet.Sync

open Fleet.Store Fleet.Work

variable {σ : Type} {d : Definition} {t : Tables}

/-! ### Rows and definitions -/

/-- The row has everything that the definition says, except for the token provider. -/
def Carries (r : Row) (d : Definition) : Prop :=
  r.toProfile = { d.toProfile with tokenProvider := r.tokenProvider } ∧ r.kind = d.kind.name

/-- What has become of the row at the URL of a definition; a new row has an identifier that is
    `fresh`. -/
inductive Written (fresh : Uuid → Prop) (d : Definition) (before after : Tables) : Prop where
  | overwritten {old row : Row} :
      before.rowsAt d.url = [old] → after.rowsAt d.url = [row] → Carries row d →
      row.id = old.id → row.created = old.created →
      row.tokenProvider = firstGiven d.tokenProvider (firstGiven old.tokenProvider old.id) →
      Written fresh d before after
  | created {row : Row} {id : Uuid} :
      before.rowsAt d.url = [] → after.rowsAt d.url = [row] → Carries row d →
      fresh id → row.id = id.render → (∀ r ∈ before.rows, r.id ≠ row.id) →
      row.tokenProvider = firstGiven d.tokenProvider row.id →
      Written fresh d before after

/-- The tables after a definition has been written, with this identifier if it needed one. -/
structure Upserted (id : Uuid) (d : Definition) (before after : Tables) : Prop where
  written : Written (· = id) d before after
  elsewhere : ∀ P : String → Bool, P d.url = false →
    (after.rows.filter fun r => P r.url) = before.rows.filter fun r => P r.url
  links : after.links = before.links
  keyed : after.Keyed
  /-- No identifier is gone. -/
  ids_kept : ∀ q ∈ before.rows, ∃ r ∈ after.rows, r.id = q.id
  /-- Only a new row has a new identifier. -/
  ids_new : ∀ r ∈ after.rows,
    (∃ q ∈ before.rows, q.id = r.id) ∨ before.rowsAt d.url = [] ∧ r.id = id.render

def newCluster (d : Definition) (id : Uuid) : Cluster :=
  d.withId id (firstGiven d.tokenProvider id.render)

def sameCluster (d : Definition) (c : Cluster) : Cluster :=
  d.withId c.id (firstGiven d.tokenProvider (firstGiven c.tokenProvider c.id.render))

theorem upserted_put (hk : t.Keyed) {row : Row} {c : Registered} (hr : t.rowAt? d.url = some row)
    (hc : row.decode = .ok c) (hid : c.id.render = row.id) (now : Nat) (id : Uuid) :
    Upserted id d t (t.put (row.overwrite now (sameCluster d c))) := by
  have hprovider : (sameCluster d c).tokenProvider =
      firstGiven d.tokenProvider (firstGiven row.tokenProvider row.id) := by
    have : c.tokenProvider = row.tokenProvider :=
      congrArg Profile.tokenProvider (Row.profile_of_decode hc)
    rw [← this, ← hid]
    rfl
  refine {
    written := .overwritten (hk.rowsAt_of_rowAt? hr) (hk.rowsAt_put hr rfl) ⟨rfl, rfl⟩ rfl rfl hprovider
    elsewhere := fun P hP => hk.filter_put hr rfl hP
    links := rfl
    keyed := hk.replace hr rfl
    ids_kept := fun q hq => ?_
    ids_new := fun r hrow => ?_ }
  · refine ⟨_, List.mem_map_of_mem hq, ?_⟩
    split
    · rename_i he
      exact he.symm
    · rfl
  · obtain ⟨q, hq, rfl⟩ := List.mem_map.1 hrow
    refine .inl ⟨q, hq, ?_⟩
    split
    · rename_i he
      exact he
    · rfl

theorem upserted_add (hk : t.Keyed) {id : Uuid} (hr : t.rowAt? d.url = none)
    (hfree : ∀ r ∈ t.rows, r.id ≠ id.render ∧ r.url ≠ d.url) (now : Nat) :
    Upserted id d t (t.add (Row.ofCluster now (newCluster d id))) where
  written := .created (Tables.rowsAt_eq_nil_iff.2 hr) (Tables.rowsAt_add hr) ⟨rfl, rfl⟩ rfl rfl
    (fun r hrow => (hfree r hrow).1) rfl
  elsewhere P hP := Tables.filter_add hP
  links := rfl
  keyed := hk.add hfree
  ids_kept q hq := ⟨q, List.mem_append_left _ hq, rfl⟩
  ids_new r hrow := by
    rcases List.mem_append.1 hrow with hrow | hrow
    · exact .inl ⟨r, hrow, rfl⟩
    · rw [List.mem_singleton.1 hrow]
      exact .inr ⟨Tables.rowsAt_eq_nil_iff.2 hr, rfl⟩

/-! ### Running it -/

/-- `upsert` call by call. -/
theorem upsert_eq (d : Definition) :
    (upsert d : Work σ Bool) =
      .call (.find d.url) fun
        | .error e => .fail e
        | .ok (some c) =>
          .call (.save (sameCluster d c)) fun
            | .error e => .fail e
            | .ok _ => .done false
        | .ok none =>
          .draw fun id =>
            .call (.create (newCluster d id)) fun
              | .error e => .fail e
              | .ok _ => .done true := by
  refine congrArg (Work.call (.find d.url)) (funext fun reply => ?_)
  rcases reply with e | (_ | c)
  · rfl
  · refine congrArg Work.draw (funext fun id => congrArg (Work.call _) (funext fun reply => ?_))
    cases reply <;> rfl
  · refine congrArg (Work.call _) (funext fun reply => ?_)
    cases reply <;> rfl

/-- The scene at the next reading of the clock. -/
def tick (s : Scene σ) : Scene σ :=
  { s with
    registry := { s.registry with
      database := { s.registry.database with clock := s.registry.database.clock + 1 } } }

theorem call_find {s : Scene σ} (hlive : s.IsLive) (url : String) :
    s.call (.find url) = (Call.decode? (s.txn.view.rowAt? url), tick s) := by
  rcases s.call_cases (.find url) with ⟨-, hcall⟩ | ⟨hn, -⟩
  · have hafter : s.afterCall (.find url) = tick s := by
      have heffect : s.attempt (.find url) =
          Call.answer s.txn.view (Call.decode? (s.txn.view.rowAt? url)) := rfl
      simp [Scene.afterCall, tick, heffect, Call.answer, ← hlive.2]
    rw [hcall, hafter, Scene.attempt, Call.find_reply]
  · exact absurd hlive hn

/-- The last thing that was done is a call that failed with this error. -/
def EndsIn (es : List (Event σ)) (why : Error) : Prop :=
  ∃ (init : List (Event σ)) (β : Type) (time : Nat) (c : Call β) (refused : Bool) (scene : Scene σ),
    es = init ++ [⟨.call time c (.error why) refused, scene⟩]

/-- What writing a definition has come to if no call failed. -/
structure Completes (d : Definition) (s s' : Scene σ) : Prop where
  isLive : s'.IsLive
  ids : s'.registry.ids = s.registry.ids
  drawn : s'.registry.drawn =
    s.registry.drawn + (if (s.txn.view.rowsAt d.url).isEmpty then 1 else 0)
  upserted : s.txn.view.Keyed →
    Upserted (s.registry.ids s.registry.drawn) d s.txn.view s'.txn.view

theorem completes_create {d : Definition} {s : Scene σ} {a : Registered}
    (hrow : s.txn.view.rowAt? d.url = none)
    (h : ((tick s).draw.2.call (.create (newCluster d (tick s).draw.1))).1 = .ok a) :
    Completes d s ((tick s).draw.2.call (.create (newCluster d (tick s).draw.1))).2 := by
  obtain ⟨hlive, hreply, hcall⟩ := Scene.call_of_ok h
  obtain ⟨-, -, hfree, -⟩ := Call.create_reply_iff.1 hreply
  have hnone : s.txn.view.rowsAt d.url = [] := Tables.rowsAt_eq_nil_iff.2 hrow
  rw [hcall]
  refine ⟨hlive.afterCall hreply, rfl, by rw [hnone]; rfl, fun hk => ?_⟩
  rw [Scene.view_afterCall hreply]
  exact upserted_add hk hrow hfree _

/-- A cluster that was found is saved under its own identifier, so it overwrites the row that it
    was found in or nothing. -/
theorem render_of_save {d : Definition} {s : Scene σ} {row : Row} {c : Cluster} {a : Registered}
    (hrow : s.txn.view.rowAt? d.url = some row)
    (h : ((tick s).call (.save (sameCluster d c))).1 = .ok a) : c.id.render = row.id := by
  obtain ⟨-, hreply, -⟩ := Scene.call_of_ok h
  obtain ⟨-, r, hr, -, hfree, -⟩ := Call.save_reply_iff.1 hreply
  obtain ⟨hmem, hurl⟩ := Tables.rowAt?_eq_some hrow
  -- nothing but the row that is overwritten may have the URL, so it is the one found
  have hid : row.id = r.id := Decidable.byContradiction fun hne => hfree row hmem hne hurl
  exact (Tables.row?_eq_some hr).2.symm.trans hid.symm

theorem completes_save {d : Definition} {s : Scene σ} {row : Row} {c a : Registered}
    (hrow : s.txn.view.rowAt? d.url = some row) (hc : row.decode = .ok c)
    (h : ((tick s).call (.save (sameCluster d c))).1 = .ok a) :
    Completes d s ((tick s).call (.save (sameCluster d c))).2 := by
  have hcid := render_of_save hrow h
  obtain ⟨hlive, hreply, hcall⟩ := Scene.call_of_ok h
  obtain ⟨-, r, hr, -⟩ := Call.save_reply_iff.1 hreply
  rw [hcall]
  refine ⟨hlive.afterCall hreply, rfl, by rw [Tables.isEmpty_rowsAt hrow]; rfl, fun hk => ?_⟩
  have hsame : r = row := hk.eq_of_id (Tables.row?_eq_some hr).1 (Tables.rowAt?_eq_some hrow).1
    ((Tables.row?_eq_some hr).2.trans hcid)
  rw [Scene.view_afterCall hreply]
  simp only [Call.effect, hr, hsame]
  exact upserted_put hk hrow hc hcid _ _

/-- **Writing a definition fails with the answer of a call, or upserts the definition** and
    tells whether there was a row before. -/
theorem upsert_cases (d : Definition) (s : Scene σ) :
    (∃ why s', (upsert d).run s = (.failed why, s') ∧ EndsIn ((upsert d).history s) why) ∨
      ∃ s', (upsert d).run s = (.done (s.txn.view.rowsAt d.url).isEmpty, s') ∧
        Completes d s s' := by
  rw [upsert_eq]
  simp only [run, history]
  cases hfind : (s.call (.find d.url)).1 with
  | error e => exact .inl ⟨e, _, rfl, [], _, _, _, _, _, rfl⟩
  | ok found =>
    have hcall := call_find (Scene.call_of_ok hfind).1 d.url
    rw [hcall] at hfind ⊢
    cases hrow : s.txn.view.rowAt? d.url with
    | none =>
      have hnone : s.txn.view.rowsAt d.url = [] := Tables.rowsAt_eq_nil_iff.2 hrow
      simp only [hrow, Call.decode?, Except.ok.injEq] at hfind
      subst hfind
      simp only [run, history]
      cases hcreate : ((tick s).draw.2.call (.create (newCluster d (tick s).draw.1))).1 with
      | error e => exact .inl ⟨e, _, rfl, [_, _], _, _, _, _, _, rfl⟩
      | ok a => exact .inr ⟨_, by rw [hnone]; rfl, completes_create hrow hcreate⟩
    | some row =>
      cases hc : row.decode with
      | error e => simp [hrow, Call.decode?, hc, Except.map] at hfind
      | ok c =>
        simp only [hrow, Call.decode?, hc, Except.map, Except.ok.injEq] at hfind
        subst hfind
        simp only [run, history]
        cases hsave : ((tick s).call (.save (sameCluster d c))).1 with
        | error e => exact .inl ⟨e, _, rfl, [_], _, _, _, _, _, rfl⟩
        | ok a =>
          exact .inr ⟨_, by rw [Tables.isEmpty_rowsAt hrow]; rfl, completes_save hrow hc hsave⟩

theorem doomed_afterCall {s : Scene σ} {c : Call β} (htraps : s.registry.database.traps = []) :
    (s.afterCall c).txn.doomed = s.txn.doomed := by
  simp [Scene.afterCall, Scene.attempt, htraps, Call.dooms_perform]

/-- Without traps, on a database that may be written, every definition can be written whose row
    holds a cluster, or for which an identifier is free if it has no row. -/
theorem upsert_succeeds {s : Scene σ} (hlive : s.IsLive)
    (hwritable : s.registry.database.backend.writable = true)
    (htraps : s.registry.database.traps = []) (hk : s.txn.view.Keyed)
    (hsound : ∀ row, s.txn.view.rowAt? d.url = some row → row.IsSound)
    (hfree : s.txn.view.rowAt? d.url = none →
      ∀ r ∈ s.txn.view.rows, r.id ≠ (s.registry.ids s.registry.drawn).render) :
    ∃ b s', (upsert d).run s = (.done b, s') ∧ s'.txn.doomed = s.txn.doomed := by
  have hsprung : ∀ point name, sprung? s.registry.database.traps point name = none := by
    intro point name
    rw [htraps]
    rfl
  rw [upsert_eq]
  simp only [run]
  rw [call_find hlive]
  cases hrow : s.txn.view.rowAt? d.url with
  | none =>
    have hurl : ∀ r ∈ s.txn.view.rows, r.url ≠ d.url := by
      simpa [Tables.rowAt?] using hrow
    obtain ⟨a, hcreate⟩ : ∃ a,
        ((tick s).draw.2.attempt (.create (newCluster d (tick s).draw.1))).reply = .ok a :=
      ⟨_, Call.create_reply_iff.2
        ⟨hwritable, hsprung _ _, fun r hr => ⟨hfree hrow r hr, hurl r hr⟩, rfl⟩⟩
    have hcall := Scene.call_of_reply (s := (tick s).draw.2) hlive hcreate
    simp only [Call.decode?, run, hcall]
    exact ⟨true, _, rfl, doomed_afterCall htraps⟩
  | some row =>
    obtain ⟨c, hc, hid⟩ := (hsound row hrow).decode
    obtain ⟨hmem, hurl⟩ := Tables.rowAt?_eq_some hrow
    have hothers : ∀ q ∈ s.txn.view.rows, q.id ≠ row.id → q.url ≠ d.url := fun q hq hne he =>
      (hk.ne hq hmem fun e => hne (congrArg Row.id e)).2 (he.trans hurl.symm)
    have hrowId : s.txn.view.row? c.id.render = some row := hid ▸ hk.row?_of_mem hmem
    obtain ⟨a, hsave⟩ : ∃ a, ((tick s).attempt (.save (sameCluster d c))).reply = .ok a :=
      ⟨_, Call.save_reply_iff.2 ⟨hwritable, row, hrowId, hsprung _ _, hothers, rfl⟩⟩
    have hcall := Scene.call_of_reply (s := tick s) hlive hsave
    simp only [Call.decode?, hc, Except.map, run, hcall]
    exact ⟨false, _, rfl, doomed_afterCall htraps⟩

end Fleet.Sync
