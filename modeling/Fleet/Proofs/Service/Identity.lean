/-
  Fleet/Proofs/Service/Identity.lean
  ==================================
  **Rows keep their identity.**

  Everything in a row but its identity may be written over again and again.  A step of the registry
  keeps every row, and the only step that takes one away is a request to delete it (`Deed.treats`).
  So in a run a row lasts until it is deleted (`Run.steady`).

  On the way, what is stored stays in order (`Tables.IsOrderly`): keys are unique, rows are sound,
  URLs are endpoints with their final slash, and no token provider is empty.
-/
import Fleet.Proofs.Service.NormalForm
import Fleet.Proofs.Service.Rows

namespace Fleet

open Fleet.Store Fleet.Work

/-! ### What is stored stays in order -/

structure Store.Tables.IsOrderly (t : Tables) : Prop where
  keyed : t.Keyed
  sound : ∀ row ∈ t.rows, row.IsSound
  urls : ∀ row ∈ t.rows, Cluster.IsKey row.url
  furnished : t.Furnished

theorem Store.Tables.isOrderly_empty : Tables.empty.IsOrderly where
  keyed := keyed_empty
  sound _ h := by cases h
  urls _ h := by cases h
  furnished _ h := by cases h

/-! ### Runs with their steps -/

/-- What can be done to a registry. -/
inductive Deed : Type 1 where
  | serve {α : Type} (s : Service) (who : Caller) (q : Request α)
  | sync (terms : Terms) (s : Snapshot)
  /-- Work is executed that fails. -/
  | fail {α : Type} (terms : Terms) (w : Work Unit α)
  | trap (t : Trap)

namespace Deed

def apply (r : Registry) : Deed → Registry
  | serve s who q => (s.serve who q r).2
  | sync terms s => (r.sync terms s).2
  | fail terms w => (r.execute terms w).2
  | trap t => { r with database := r.database.setTrap t }

/-- Only snapshots of these cluster files are synced, and what is to fail does so. -/
def Fits (files : String → Prop) (r : Registry) : Deed → Prop
  | serve _ _ _ => True
  | sync _ s => ∃ text, files text ∧ Config.ofText text = .ok s
  | fail terms w => ∀ a, (r.execute terms w).1 ≠ .ok a
  | trap _ => True

/-- The deed is a request to delete the row, and the row is gone. -/
structure Deletes (d : Deed) (r : Registry) (row : Row) : Prop where
  request : ∃ s who id, d = .serve s who (.delete id) ∧ row.id = id.render ∧
    (s.serve who (.delete id) r).1 = .ok ()
  gone : ∀ row' ∈ (d.apply r).database.tables.rows, row'.id ≠ row.id

variable {files : String → Prop} {r : Registry} {d : Deed} {row : Row}

theorem step (h : d.Fits files r) : Registry.Step files r (d.apply r) := by
  cases d with
  | serve s who q => exact .serve s who q
  | sync terms s =>
    obtain ⟨text, hfile, htext⟩ := h
    exact .sync terms hfile htext
  | fail terms w => exact .fail terms w h
  | trap t => exact .trap t

end Deed

theorem Registry.Step.exists_deed {files : String → Prop} {r r' : Registry}
    (h : Registry.Step files r r') : ∃ d : Deed, d.Fits files r ∧ d.apply r = r' := by
  cases h with
  | serve s who q => exact ⟨.serve s who q, trivial, rfl⟩
  | @sync terms text s hfile htext => exact ⟨.sync terms s, ⟨text, hfile, htext⟩, rfl⟩
  | fail terms w hfail => exact ⟨.fail terms w, hfail, rfl⟩
  | trap t => exact ⟨.trap t, trivial, rfl⟩

/-! ### One step -/

section

variable {r : Registry} {terms : Terms} {row : Row}

theorem Registry.tables_of_error {α : Type} {w : Work Unit α} (h : ∀ a, (r.execute terms w).1 ≠ .ok a) :
    (r.execute terms w).2.database.tables = r.database.tables := by
  apply Context.tables_of_not_done
  intro a ha
  exact h a (Registry.answer_eq_ok.2 ha)

/-- What an execution makes of rows: it keeps them, and it leaves none without token provider. -/
structure Registry.Preserves (r r' : Registry) : Prop where
  keeps : ∀ row ∈ r.database.tables.rows, r'.database.tables.Keeps row
  furnished : r'.database.tables.Furnished

theorem Registry.preserves_of_tables {r' : Registry} (hf : r.database.tables.Furnished)
    (h : r'.database.tables = r.database.tables) : r.Preserves r' := by
  constructor
  · intro row hrow
    rw [h]
    exact Tables.keeps_of_mem hrow
  · rw [h]
    exact hf

theorem Service.preserves_save (h : r.database.tables.IsOrderly) (c : Cluster) :
    r.Preserves (r.execute terms (saveWork c)).2 := by
  cases Service.settles_saveWork terms c h.keyed h.sound with
  | error hnot hrun htables =>
    rw [hrun]
    exact Registry.preserves_of_tables h.furnished htables
  | ok hclear hrun hplaced =>
    rw [hrun]
    constructor
    · intro row hrow
      exact hplaced.keeps h.keyed hrow
    · apply hplaced.furnished _ h.furnished
      intro row hrow old hold
      have hprovider : old.tokenProvider = row.tokenProvider :=
        congrArg Profile.tokenProvider (Row.profile_of_decode hold)
      change old.tokenProvider ≠ ""
      rw [hprovider]
      exact h.furnished row hrow

theorem Registry.preserves_sync (h : r.database.tables.IsOrderly) (s : Snapshot) :
    r.Preserves (r.sync terms s).2 := by
  cases hanswer : (r.sync terms s).1 with
  | error e =>
    apply preserves_of_tables h.furnished
    apply tables_of_error
    intro rep hrep
    rw [sync] at hanswer
    rw [hanswer] at hrep
    cases hrep
  | ok rep =>
    obtain ⟨hsynced, -⟩ := Sync.synced_of_ok h.keyed (.refl _) (Prod.ext hanswer rfl)
    constructor
    · intro row hrow
      exact hsynced.keeps hrow
    · exact hsynced.furnished h.sound h.furnished

theorem Registry.removes_execute {α : Type} (r : Registry) (terms : Terms) {gone : Row → Prop}
    {w : Work Unit α} (hw : w.Makes (Call.Removes gone)) :
    (r.execute terms w).2.database.tables.rows ⊆ r.database.tables.rows ∧
      ∀ row ∈ r.database.tables.rows, ¬ gone row →
        row ∈ (r.execute terms w).2.database.tables.rows := by
  constructor
  · refine Context.execute_keeps (P := fun t => t.rows ⊆ r.database.tables.rows) ?_ hw
      (List.Subset.refl _)
    intro β c now t hc ht
    exact List.Subset.trans (hc.adds now t) ht
  · intro row hrow hgone
    refine Context.execute_keeps (P := fun t => row ∈ t.rows) ?_ hw hrow
    intro β c now t hc ht
    exact hc.spares now t row hgone ht

end

namespace Deed

/-- What a deed makes of rows: it keeps or deletes them, and leaves none without token provider. -/
structure Treats (d : Deed) (r : Registry) : Prop where
  rows : ∀ row ∈ r.database.tables.rows,
    (d.apply r).database.tables.Keeps row ∨ d.Deletes r row
  furnished : (d.apply r).database.tables.Furnished

variable {files : String → Prop} {r : Registry} {d : Deed}

theorem treats_of_preserves (h : r.Preserves (d.apply r)) : d.Treats r where
  rows row hrow := .inl (h.keeps row hrow)
  furnished := h.furnished

theorem treats_delete {s : Service} {who : Caller} {id : Uuid} (h : r.database.tables.IsOrderly)
    (hrun : s.serve who (.delete id) r = r.execute s.terms (Service.deleteWork id)) :
    (Deed.serve s who (.delete id)).Treats r := by
  obtain ⟨hsubset, hspares⟩ := Registry.removes_execute r s.terms
    (Service.makes_deleteWork (Call.removes_delete id))
  have hafter : (Deed.serve s who (.delete id)).apply r =
      (r.execute s.terms (Service.deleteWork id)).2 := congrArg Prod.snd hrun
  constructor
  · intro row hrow
    cases hanswer : (r.execute s.terms (Service.deleteWork id)).1 with
    | error e =>
      left
      rw [hafter, Registry.tables_of_error (by rw [hanswer]; exact nofun)]
      exact Tables.keeps_of_mem hrow
    | ok u =>
      by_cases hid : row.id = id.render
      · right
        refine ⟨⟨s, who, id, rfl, hid, by rw [hrun, hanswer]⟩, ?_⟩
        obtain ⟨gone, hgone, htables⟩ := Service.tables_of_deleteWork hanswer
        rw [hafter, htables]
        intro row' hrow' hsame
        have hne := of_decide_eq_true (List.mem_filter.1 hrow').2
        exact hne (by rw [hsame, hid, (Tables.row?_eq_some hgone).2])
      · left
        rw [hafter]
        exact Tables.keeps_of_mem (hspares row hrow hid)
  · rw [hafter]
    intro row hrow
    exact h.furnished row (hsubset hrow)

theorem treats_of_removes {s : Service} {who : Caller} {q : Request α} {w : Work Unit α}
    (h : r.database.tables.IsOrderly) (hrun : s.serve who q r = r.execute s.terms w)
    (hw : w.Makes (Call.Removes fun _ => False)) : (Deed.serve s who q).Treats r := by
  obtain ⟨hsubset, hspares⟩ := Registry.removes_execute r s.terms hw
  have hafter : (Deed.serve s who q).apply r = (r.execute s.terms w).2 := congrArg Prod.snd hrun
  constructor
  · intro row hrow
    left
    rw [hafter]
    exact Tables.keeps_of_mem (hspares row hrow id)
  · rw [hafter]
    intro row hrow
    exact h.furnished row (hsubset hrow)

theorem treats_serve (h : r.database.tables.IsOrderly) (s : Service) (who : Caller) (q : Request α) :
    (Deed.serve s who q).Treats r := by
  rcases s.serve_cases who q r with hsame | ⟨w, hw, hrun⟩ | ⟨β, c, hc, hcall⟩
  · apply treats_of_preserves
    exact Registry.preserves_of_tables h.furnished (congrArg (·.database.tables) hsame)
  · cases q with
    | save c =>
      simp only [Request.work?, Option.some.injEq] at hw
      cases hn : c.normalize with
      | error e =>
        rw [hn] at hw
        cases hw
      | ok n =>
        rw [hn] at hw
        cases hw
        apply treats_of_preserves
        change r.Preserves (s.serve who (.save c) r).2
        rw [hrun]
        exact Service.preserves_save h n
    | delete id =>
      cases hw
      exact treats_delete h hrun
    | link identity url ignoreExisting =>
      cases hw
      apply treats_of_removes h hrun
      apply Service.makes_linkWork
      · exact Call.removes_of_rows fun _ _ => rfl
      · exact fun _ => Call.removes_of_rows fun _ _ => rfl
      · exact fun _ => Call.removes_of_rows fun _ _ => rfl
    | unlink identity url =>
      cases hw
      apply treats_of_removes h hrun
      exact Service.makes_unlinkWork (Call.removes_unlink identity (withSlash url))
    | load _ | find _ | list _ | clustersOf _ => cases hw
  · apply treats_of_preserves
    apply Registry.preserves_of_tables h.furnished
    change (s.serve who q r).2.database.tables = _
    rw [hcall, Registry.tables_call hc]

/-- **A step keeps every row, unless it deletes it.** -/
theorem treats (hd : d.Fits files r) (h : r.database.tables.IsOrderly) : d.Treats r := by
  cases d with
  | serve s who q => exact treats_serve h s who q
  | sync terms s => exact treats_of_preserves (Registry.preserves_sync h s)
  | fail terms w =>
    apply treats_of_preserves
    exact Registry.preserves_of_tables h.furnished (Registry.tables_of_error hd)
  | trap t => exact treats_of_preserves (Registry.preserves_of_tables h.furnished rfl)

end Deed

/-! ### All steps -/

namespace Registry

variable {files : String → Prop} {r r' : Registry}

theorem Step.keep {P : Tables → Prop}
    (hP : ∀ {β : Type} (c : Call β) b traps now t, P t → P (c.perform b traps now t).tables)
    (h : Registry.Step files r r') (hr : P r.database.tables) : P r'.database.tables := by
  cases h with
  | serve s who q =>
    rcases s.serve_cases who q r with h | ⟨w, hw, h⟩ | ⟨β, c, hc, h⟩
    · rw [h]
      exact hr
    · rw [h]
      exact Context.tables_keep hP hr
    · rw [h]
      exact tables_call_keep hP c hr
  | sync terms hfile htext => exact Context.tables_keep hP hr
  | fail terms w hfail => exact Context.tables_keep hP hr
  | trap t => exact hr

theorem Step.isOrderly (h : Registry.Step files r r') (hr : r.database.tables.IsOrderly) :
    r'.database.tables.IsOrderly where
  keyed := h.keep (fun c _ _ _ _ ht => Call.keyed_perform c ht) hr.keyed
  sound := h.keep (P := fun t => ∀ row ∈ t.rows, row.IsSound)
    (fun c _ _ _ _ ht => Call.isSound_perform c ht) hr.sound
  urls := by
    have hold : r.database.tables.Hold fun c => Cluster.IsKey c.url := by
      intro row hrow
      obtain ⟨c, hdecode, -⟩ := (hr.sound row hrow).decode
      have hurl : c.url = row.url := congrArg Profile.url (Row.profile_of_decode hdecode)
      have hkey : Cluster.IsKey c.url := hurl ▸ hr.urls row hrow
      exact ⟨c, hdecode, hkey⟩
    have hnew : r'.database.tables.Hold fun c => Cluster.IsKey c.url := by
      refine h.hold ?_ ?_ hold
      · intro c n hn id tokenProvider
        have hkey : Cluster.IsKey n.url := Cluster.isKey_of_normalize hn
        exact hkey
      · intro text s hfile hs d hd id tokenProvider
        have hkey : Cluster.IsKey d.url := Definition.isKey_of_ofText hs hd
        exact hkey
    intro row hrow
    obtain ⟨c, hdecode, hc⟩ := hnew row hrow
    have hurl : c.url = row.url := congrArg Profile.url (Row.profile_of_decode hdecode)
    exact hurl ▸ hc
  furnished := by
    obtain ⟨d, hd, rfl⟩ := h.exists_deed
    exact (d.treats hd hr).furnished

/-- **Whatever has happened to a registry that was empty, it is in order.** -/
theorem Reached.isOrderly {b : Backend} (h : Reached files r r') (hr : r.database = .create b) :
    r'.database.tables.IsOrderly := by
  induction h with
  | start =>
    rw [hr]
    exact Tables.isOrderly_empty
  | step _ hstep ih => exact hstep.isOrderly ih

end Registry

/-- A step in a run, with the registry before it. -/
structure Moment : Type 1 where
  before : Registry
  deed : Deed

namespace Moment

def after (m : Moment) : Registry := m.deed.apply m.before

def rows (m : Moment) : List Row := m.after.database.tables.rows

end Moment

/-- A run of a registry from here on, to which these cluster files may come. -/
inductive Run (files : String → Prop) : Registry → List Moment → Prop where
  | nil (r : Registry) : Run files r []
  | cons {r : Registry} {d : Deed} {ms : List Moment} :
      d.Fits files r → Run files (d.apply r) ms → Run files r (⟨r, d⟩ :: ms)

/-- The row is there after every step, with the same identity, until a step deletes it. -/
inductive Lasts (row : Row) : List Moment → Prop where
  | nil : Lasts row []
  | kept {m : Moment} {ms : List Moment} :
      m.after.database.tables.Keeps row → Lasts row ms → Lasts row (m :: ms)
  | deleted {m : Moment} {ms : List Moment} : m.deed.Deletes m.before row → Lasts row (m :: ms)

namespace Run

variable {files : String → Prop} {r : Registry} {ms : List Moment} {row : Row}

theorem lasts (h : Run files r ms) (hr : r.database.tables.IsOrderly)
    (hrow : r.database.tables.Keeps row) : Lasts row ms := by
  induction h with
  | nil r => exact .nil
  | @cons r d ms hd _ ih =>
    -- what is there now may have been written over, but it is the same row
    obtain ⟨now, hnow, hsame⟩ := hrow
    have horderly := (Deed.step hd).isOrderly hr
    rcases (d.treats hd hr).rows now hnow with ⟨next, hnext, hsame'⟩ | ⟨hrequest, hgone⟩
    · have hkept : (d.apply r).database.tables.Keeps row :=
        ⟨next, hnext, hsame'.id.trans hsame.id, hsame'.url.trans hsame.url,
          hsame'.created.trans hsame.created⟩
      exact .kept hkept (ih horderly hkept)
    · refine .deleted ⟨?_, ?_⟩
      · rw [← hsame.id]
        exact hrequest
      · rw [← hsame.id]
        exact hgone

/-- After each step of a run the registry is in order, and the rest of the run starts there. -/
theorem split (h : Run files r ms) (hr : r.database.tables.IsOrderly) {pre post : List Moment}
    {m : Moment} (hms : ms = pre ++ m :: post) :
    m.after.database.tables.IsOrderly ∧ Run files m.after post := by
  induction h generalizing pre with
  | nil r => simp at hms
  | @cons r d ms hd hrest ih =>
    have horderly := (Deed.step hd).isOrderly hr
    cases pre with
    | nil =>
      obtain ⟨rfl, rfl⟩ := List.cons.inj hms
      exact ⟨horderly, hrest⟩
    | cons m' pre => exact ih horderly (List.cons.inj hms).2

/-- **Rows are steady.**  In a run from an empty registry a row keeps its identifier, its URL and
    its time of creation from the step that creates it until a request deletes it.  The URLs are
    endpoints with their final slash, and no token provider is empty. -/
theorem steady {b : Backend} (h : Run files r ms) (hr : r.database = .create b) :
    (∀ pre m post, ms = pre ++ m :: post → ∀ row ∈ m.rows, Lasts row post) ∧
      ∀ m ∈ ms, ∀ row ∈ m.rows, withSlash row.url = row.url ∧
        (∃ u, Endpoint.parse row.url = .ok u) ∧ row.tokenProvider ≠ "" := by
  have hempty : r.database.tables.IsOrderly := by
    rw [hr]
    exact Tables.isOrderly_empty
  constructor
  · intro pre m post hms row hrow
    obtain ⟨horderly, hrest⟩ := h.split hempty hms
    exact hrest.lasts horderly (Tables.keeps_of_mem hrow)
  · intro m hm row hrow
    obtain ⟨pre, post, hms⟩ := List.append_of_mem hm
    obtain ⟨horderly, -⟩ := h.split hempty hms
    obtain ⟨hslash, hvalid⟩ := horderly.urls row hrow
    exact ⟨hslash, Endpoint.exists_of_isValid hvalid, horderly.furnished row hrow⟩

/-! ### A row that is created, written over and deleted -/

def loopback : Cluster :=
  { Context.bare "http://[::1]" with
    name := "a", consoleUrl := "http://[::1]/c", metricsUrl := "http://[::1]/m",
    loggingUrl := "http://[::1]/l", appDns := "a", token := "a", tokenUser := "a",
    clientId := "a", clientSecret := "a", clientScope := "a", id := ⟨1⟩ }

def service : Service := ⟨Context.halfMinute, .everyone⟩

def blankMoment : Moment := ⟨Context.blank .sqlite, .serve service (.user .nil) (.save loopback)⟩

def savedMoment : Moment :=
  ⟨blankMoment.after, .serve service (.user .nil) (.save { loopback with name := "b", id := ⟨2⟩ })⟩

def deletedMoment : Moment :=
  ⟨savedMoment.after, .serve service (.user .nil) (.delete ⟨1⟩)⟩

theorem deleted_steady :
    Run (fun _ => False) (Context.blank .sqlite) [blankMoment, savedMoment, deletedMoment] ∧
      [blankMoment, savedMoment, deletedMoment].map (·.rows.length) = [1, 1, 0] ∧
      (∀ pre m post, [blankMoment, savedMoment, deletedMoment] = pre ++ m :: post →
        ∀ row ∈ m.rows, Lasts row post) ∧
      ∀ m ∈ [blankMoment, savedMoment, deletedMoment], ∀ row ∈ m.rows,
        withSlash row.url = row.url ∧ (∃ u, Endpoint.parse row.url = .ok u) ∧
          row.tokenProvider ≠ "" :=
  have h : Run (fun _ => False) (Context.blank .sqlite) [blankMoment, savedMoment, deletedMoment] :=
    .cons trivial (.cons trivial (.cons trivial (.nil _)))
  ⟨h, by decide +kernel, h.steady rfl⟩

end Run

end Fleet
