/-
  Fleet/Proofs/Service/Rows.lean
  ==============================
  **What becomes of rows.**

  The identity of a row is its identifier, its URL and the time of its creation.  Placements and
  syncs keep it, whatever they write over the rest of the row, and they leave no row without a
  token provider.  Other changes do nothing to rows but take some away: those of a request to delete
  a cluster, which succeeds only if it takes the row away (`Service.tables_of_deleteWork`).
-/
import Fleet.Proofs.Service.Placement
import Fleet.Proofs.Service.Runs
import Fleet.Proofs.Sync.AllOrNothing

namespace Fleet

open Fleet.Store Fleet.Work

/-! ### The identity of a row -/

namespace Store

structure Row.IsSame (a b : Row) : Prop where
  id : b.id = a.id
  url : b.url = a.url
  created : b.created = a.created

theorem Row.IsSame.refl (r : Row) : r.IsSame r := ⟨rfl, rfl, rfl⟩

namespace Tables

variable {t t' : Tables} {row : Row}

/-- The row is there, whatever has been written over it. -/
def Keeps (t : Tables) (row : Row) : Prop := ∃ row' ∈ t.rows, row.IsSame row'

theorem keeps_of_mem (h : row ∈ t.rows) : t.Keeps row := ⟨row, h, .refl row⟩

def Furnished (t : Tables) : Prop := ∀ r ∈ t.rows, r.tokenProvider ≠ ""

end Tables

end Store

theorem firstGiven_ne {a b : String} (h : b ≠ "") : firstGiven a b ≠ "" := by
  unfold firstGiven
  by_cases ha : a.isEmpty = true
  · rw [if_pos ha]
    exact h
  · rw [if_neg ha]
    rintro rfl
    exact ha rfl

theorem Uuid.render_ne (id : Uuid) : id.render ≠ "" := by
  intro h
  have hparse := Uuid.parse_render id
  rw [h] at hparse
  cases hparse

/-! ### Placements and syncs -/

namespace Placement

variable {p : Placement} {id : Uuid} {t t' : Tables} {row : Row}

theorem Placed.keeps (h : Placed p id t t') (hk : t.Keyed) (hrow : row ∈ t.rows) : t'.Keeps row := by
  cases h with
  | @renewed now old c hold hdecode hid htables =>
    obtain ⟨hmem, hurl⟩ := Tables.rowAt?_eq_some hold
    rw [htables]
    by_cases heq : row.id = old.id
    · obtain rfl := hk.eq_of_id hrow hmem heq
      refine ⟨row.overwrite now (p.renew c), List.mem_map.2 ⟨row, hrow, if_pos rfl⟩, rfl, ?_, rfl⟩
      exact hurl.symm
    · exact Tables.keeps_of_mem (List.mem_map.2 ⟨row, hrow, if_neg heq⟩)
  | made now hnone hfree htables =>
    rw [htables]
    exact Tables.keeps_of_mem (List.mem_append_left _ hrow)

theorem Placed.furnished (h : Placed p id t t')
    (hstandIn : ∀ r ∈ t.rows, ∀ c, r.decode = .ok c → p.standIn c ≠ "") (ht : t.Furnished) :
    t'.Furnished := by
  cases h with
  | @renewed now old c hold hdecode hid htables =>
    obtain ⟨hmem, -⟩ := Tables.rowAt?_eq_some hold
    rw [htables]
    intro r hr
    obtain ⟨q, hq, rfl⟩ := List.mem_map.1 hr
    split
    · exact firstGiven_ne (hstandIn old hmem c hdecode)
    · exact ht q hq
  | made now hnone hfree htables =>
    rw [htables]
    intro r hr
    rcases List.mem_append.1 hr with hr | hr
    · exact ht r hr
    · rw [List.mem_singleton.1 hr]
      exact firstGiven_ne id.render_ne

end Placement

namespace Sync

variable {fresh : Uuid → Prop} {ds : List Definition} {t t' : Tables} {row : Row}

theorem Synced.mem_rows (h : Synced fresh ds t t') (hrow : row ∈ t'.rows) :
    (∃ d ∈ ds, row ∈ t'.rowsAt d.url) ∨ row ∈ t.rows := by
  by_cases hurl : row.url ∈ ds.map (·.url)
  · obtain ⟨d, hd, hdurl⟩ := List.mem_map.1 hurl
    exact .inl ⟨d, hd, Tables.mem_rowsAt.2 ⟨hrow, hdurl.symm⟩⟩
  · right
    have haway : row ∈ t'.away (ds.map (·.url)) :=
      List.mem_filter.2 ⟨hrow, decide_eq_true hurl⟩
    rw [h.elsewhere] at haway
    exact (List.mem_filter.1 haway).1

theorem Synced.keeps (h : Synced fresh ds t t') (hrow : row ∈ t.rows) : t'.Keeps row := by
  by_cases hurl : row.url ∈ ds.map (·.url)
  · obtain ⟨d, hd, hdurl⟩ := List.mem_map.1 hurl
    have hat : row ∈ t.rowsAt d.url := Tables.mem_rowsAt.2 ⟨hrow, hdurl.symm⟩
    cases h.written d hd with
    | @overwritten old new hold hnew hcarries hid hcreated hprovider =>
      rw [hold, List.mem_singleton] at hat
      subst hat
      have hin : new ∈ t'.rowsAt d.url := by
        rw [hnew]
        exact List.mem_singleton_self new
      obtain ⟨hmem, hnewUrl⟩ := Tables.mem_rowsAt.1 hin
      exact ⟨new, hmem, hid, hnewUrl.trans hdurl, hcreated⟩
    | created hnone =>
      rw [hnone] at hat
      cases hat
  · have haway : row ∈ t.away (ds.map (·.url)) :=
      List.mem_filter.2 ⟨hrow, decide_eq_true hurl⟩
    rw [← h.elsewhere] at haway
    exact Tables.keeps_of_mem (List.mem_filter.1 haway).1

theorem Synced.furnished (h : Synced fresh ds t t') (hsound : ∀ r ∈ t.rows, r.IsSound)
    (ht : t.Furnished) : t'.Furnished := by
  intro row hrow
  rcases h.mem_rows hrow with ⟨d, hd, hat⟩ | hold
  · cases h.written d hd with
    | @overwritten old new hold hnew hcarries hid hcreated hprovider =>
      rw [hnew, List.mem_singleton] at hat
      subst hat
      rw [hprovider]
      have hin : old ∈ t.rowsAt d.url := by
        rw [hold]
        exact List.mem_singleton_self old
      obtain ⟨id, kind, hold, -⟩ := hsound old (Tables.mem_rowsAt.1 hin).1
      rw [hold]
      exact firstGiven_ne (firstGiven_ne id.render_ne)
    | @created new id hnone hnew hcarries hfresh hid hfree hprovider =>
      rw [hnew, List.mem_singleton] at hat
      subst hat
      rw [hprovider, hid]
      exact firstGiven_ne id.render_ne
  · exact ht row hold

end Sync

/-! ### Calls that take rows away -/

namespace Store.Call

/-- A call that adds no row, and takes none away but some of these. -/
structure Removes (gone : Row → Prop) (c : Call α) : Prop where
  adds : ∀ now t, (c.effect now t).rows ⊆ t.rows
  spares : ∀ now t row, ¬ gone row → row ∈ t.rows → row ∈ (c.effect now t).rows

variable {gone : Row → Prop}

theorem removes_of_rows {c : Call α} (h : ∀ now t, (c.effect now t).rows = t.rows) :
    c.Removes gone where
  adds now t := by
    rw [h]
    exact List.Subset.refl _
  spares now t row _ hrow := by
    rw [h]
    exact hrow

theorem removes_delete (id : Uuid) : (Call.delete id).Removes fun row => row.id = id.render where
  adds now t := by
    simp only [effect]
    split
    · exact List.Subset.refl _
    · exact List.filter_sublist.subset
  spares now t row hid hrow := by
    simp only [effect]
    split
    · exact hrow
    · rename_i r hr
      refine List.mem_filter.2 ⟨hrow, decide_eq_true ?_⟩
      rw [(Tables.row?_eq_some hr).2]
      exact hid

theorem removes_unlink (identity : Uuid) (url : String) : (Call.unlink identity url).Removes gone := by
  apply removes_of_rows
  intro now t
  simp only [effect]
  split <;> rfl

theorem delete_reply {b : Backend} {traps : List Trap} {now : Nat} {t : Tables} {id : Uuid}
    {found : Bool} (h : ((Call.delete id).perform b traps now t).reply = .ok found) :
    found = (t.row? id.render).isSome := by
  unfold perform at h
  split at h
  · cases h
  · simp only [run] at h
    cases hdelete : t.delete traps id with
    | error why =>
      rw [hdelete] at h
      cases why <;> cases h
    | ok p =>
      rw [hdelete] at h
      have hp := Tables.delete_eq_ok hdelete
      cases h
      cases hrow : t.row? id.render <;> rw [hrow] at hp <;> rw [hp] <;> rfl

end Store.Call

namespace Service

variable {r : Registry} {terms : Terms} {id : Uuid}

theorem run_deleteWork {σ : Type} {s : Scene σ} (h : ((deleteWork id).run s).1 = .done ()) :
    (s.call (.delete id)).1 = .ok true ∧ ((deleteWork id).run s).2 = (s.call (.delete id)).2 := by
  have hrun : (deleteWork id : Work σ Unit) = .call (.delete id) fun
      | .error e => .fail e
      | .ok true => .done ()
      | .ok false => .fail (.notFound .cluster id.render) := by
    refine congrArg (Work.call _) (funext fun reply => ?_)
    rcases reply with e | (_ | _) <;> rfl
  rw [hrun] at h ⊢
  simp only [run] at h ⊢
  rcases hreply : (s.call (.delete id)).1 with e | (_ | _)
  · rw [hreply] at h
    cases h
  · rw [hreply] at h
    cases h
  · exact ⟨rfl, rfl⟩

theorem tables_of_deleteWork (h : (r.execute terms (deleteWork id)).1 = .ok ()) :
    ∃ row, r.database.tables.row? id.render = some row ∧
      (r.execute terms (deleteWork id)).2.database.tables = r.database.tables.drop row := by
  obtain ⟨start, hs, hdone, hcommitted⟩ := Context.exists_run_of_done (Registry.answer_eq_ok.1 h)
  have hview := (Context.starts hs).view
  obtain ⟨hreply, hrun⟩ := run_deleteWork hdone
  obtain ⟨hlive, hanswer, hcall⟩ := Scene.call_of_ok hreply
  have hfound := Call.delete_reply hanswer
  rw [hview] at hfound
  obtain ⟨row, hrow⟩ := Option.isSome_iff_exists.1 hfound.symm
  refine ⟨row, hrow, ?_⟩
  rw [hrun, hcall] at hcommitted
  refine (hcommitted (hlive.afterCall hanswer)).trans ?_
  rw [Scene.view_afterCall hanswer, hview, Call.effect, hrow]

end Service

end Fleet
