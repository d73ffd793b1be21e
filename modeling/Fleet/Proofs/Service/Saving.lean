/-
  Fleet/Proofs/Service/Saving.lean
  ================================
  **What a request to save a cluster comes to.**

  A request is about a cluster whose URL may be known to the registry, and whose identifier may be
  known to it as well.  The URL alone decides.  If there is a row at it, this row is overwritten and
  keeps its identifier, whatever identifier the request gives.  If there is none, a row is added
  under the identifier that is given or under a new one, unless that identifier has been taken by a
  row at another URL; then nothing happens (`Saving`).

  In a calm registry the work of the request ends in one of these three ways
  (`Service.run_saveWork_renewed`, `Service.run_saveWork_made`, `Service.run_saveWork_taken`).  What
  has been saved is found under its URL and its identifier, and no other row is touched
  (`Registry.Saves`).
-/
import Fleet.Proofs.Service.Links
import Fleet.Proofs.Session.Steps

namespace Fleet

open Fleet.Text Fleet.Store Fleet.Work

/-! ### Clusters without a normal form -/

/-- Whatever a computation fails with is about a parameter. -/
def BlamesParameter (x : Except Error α) : Prop :=
  ∀ e, x = .error e → ∃ field message, e = .badParameter field message

namespace BlamesParameter

variable {α β : Type}

theorem ok (a : α) : BlamesParameter (.ok a) := by
  intro e he
  cases he

theorem error (field message : String) :
    BlamesParameter (.error (.badParameter field message) : Except Error α) := by
  intro e he
  cases he
  exact ⟨field, message, rfl⟩

theorem bind {x : Except Error α} {f : α → Except Error β} (hx : BlamesParameter x)
    (hf : ∀ a, BlamesParameter (f a)) : BlamesParameter (x >>= f) := by
  intro e he
  cases hcase : x with
  | ok a =>
    rw [hcase] at he
    exact hf a e he
  | error e' =>
    rw [hcase] at he
    have hsame : e' = e := Except.error.inj he
    exact hx e (hsame ▸ hcase)

theorem forM {f : α → Except Error Unit} (hf : ∀ a, BlamesParameter (f a)) (as : List α) :
    BlamesParameter (as.forM f) := by
  induction as with
  | nil => exact ok _
  | cons a as ih => exact (hf a).bind fun _ => ih

end BlamesParameter

namespace Cluster

theorem blames_besideApi (api : Url) (field text : String) :
    BlamesParameter (besideApi api field text) := by
  unfold besideApi
  split
  · split
    · exact .ok _
    · exact .error _ _
  · exact .ok _

theorem blames_check (c : Cluster) : BlamesParameter c.check := by
  refine BlamesParameter.bind ?_ fun _ => ?_
  · refine .forM (fun p => ?_) _
    simp only [checkText]
    split
    · exact .error _ _
    · exact .ok _
  · refine .forM (fun p => ?_) _
    simp only [checkUrl]
    split
    · exact .ok _
    · exact .error _ _

/-- **A cluster without a normal form has a bad parameter.** -/
theorem blames_normalize (c : Cluster) : BlamesParameter c.normalize := by
  refine BlamesParameter.bind ?_ fun api => ?_
  · cases Endpoint.parse c.url with
    | ok api => exact .ok _
    | error why => exact .error _ _
  · refine (blames_besideApi api _ _).bind fun console => ?_
    refine (blames_besideApi api _ _).bind fun metrics => ?_
    refine (blames_besideApi api _ _).bind fun logging => ?_
    exact (blames_check _).bind fun _ => .ok _

/-- The normal form keeps everything by which the request chooses a row and fills it. -/
theorem keys_of_normalize {c n : Cluster} (h : c.normalize = .ok n) :
    n.url = withSlash c.url ∧ n.id = c.id ∧ n.tokenProvider = c.tokenProvider := by
  obtain ⟨api, console, metrics, logging, -, -, -, -, rfl, -⟩ := normalize_eq_ok_iff.1 h
  exact ⟨rfl, rfl, rfl⟩

end Cluster

/-! ### One row and the others -/

namespace Store

/-- Tables with a row at its URL, and otherwise as they were. -/
structure Tables.Sets (t : Tables) (row : Row) (t' : Tables) : Prop where
  there : t'.rowsAt row.url = [row]
  elsewhere : t'.away [row.url] = t.away [row.url]
  links : t'.links = t.links
  keyed : t'.Keyed

namespace Tables

variable {t t' : Tables} {row old : Row}

theorem Keyed.sets_add (h : t.Keyed) (hurl : t.rowAt? row.url = none)
    (hid : ∀ r ∈ t.rows, r.id ≠ row.id) : t.Sets row (t.add row) where
  there := rowsAt_add hurl
  elsewhere := filter_add (P := fun url => decide (url ∉ [row.url])) (by simp)
  links := rfl
  keyed := by
    refine h.add fun r hr => ⟨hid r hr, ?_⟩
    simpa using List.find?_eq_none.1 hurl r hr

theorem Keyed.sets_put (h : t.Keyed) (hold : t.rowAt? row.url = some old) (hid : old.id = row.id) :
    t.Sets row (t.put row) where
  there := h.rowsAt_put hold hid
  elsewhere := h.filter_put (P := fun url => decide (url ∉ [row.url])) hold hid (by simp)
  links := rfl
  keyed := h.replace hold hid

theorem Sets.rowAt? (h : t.Sets row t') : t'.rowAt? row.url = some row := by
  rw [← head?_rowsAt, h.there]
  rfl

theorem Sets.row? (h : t.Sets row t') : t'.row? row.id = some row :=
  h.keyed.row?_of_mem (rowAt?_eq_some h.rowAt?).1

end Tables

namespace Call

variable {b : Backend} {now : Nat} {t : Tables}

/-- An identifier that is taken keeps a cluster from being created. -/
theorem create_reply_of_taken (hb : b.writable = true) {c : Cluster} {row : Row} (hrow : row ∈ t.rows)
    (hid : row.id = c.id.render) :
    ((Call.create c).perform b [] now t).reply = .error (.alreadyExists .cluster c.url) := by
  have htaken : (t.rows.any fun r => r.id = c.id.render || r.url = c.url) = true :=
    List.any_eq_true.2 ⟨row, hrow, by simp [hid]⟩
  simp [perform_eq_run hb, run, Tables.insert, sprung?, htaken, refuse]

end Call

end Store

/-! ### The work of a request -/

section

variable {σ α : Type} {s : Scene σ}

/-- A new cluster gets its identifier in a calm scene, which stays calm. -/
theorem Placement.run_withNewId_of_isCalm (p : Placement) (h : s.IsCalm) (next : Uuid → Work σ α) :
    ∃ s₁ : Scene σ, (p.withNewId next).run s = (next (p.newId s.registry)).run s₁ ∧ s₁.IsCalm ∧
      s₁.txn.view = s.txn.view := by
  unfold withNewId newId
  cases p.given with
  | some id => exact ⟨s, rfl, h, rfl⟩
  | none => exact ⟨s.draw.2, rfl, h.draw, rfl⟩

namespace Service

variable {c : Cluster} {row : Row}

/-- What is saved where there is a cluster at the URL. -/
def renewed (c old : Cluster) : Cluster :=
  { c with id := old.id, tokenProvider := firstGiven c.tokenProvider old.tokenProvider }

/-- What is saved where there is none, under an identifier. -/
def made (c : Cluster) (id : Uuid) : Cluster :=
  { c with id, tokenProvider := firstGiven c.tokenProvider id.render }

/-- The identifier that a request gives a new cluster. -/
def newId (c : Cluster) (r : Registry) : Uuid := if c.id = Uuid.nil then r.ids r.drawn else c.id

theorem newId_ofCluster (c : Cluster) (r : Registry) : (Placement.ofCluster c).newId r = newId c r := by
  unfold Placement.newId Placement.ofCluster newId
  by_cases hid : c.id = Uuid.nil
  · simp [hid]
  · simp [hid]

/-- To begin a transaction draws no identifier. -/
theorem newId_of_starts {r : Registry} {s : Scene σ} (hs : Context.Starts r s) :
    newId c s.registry = newId c r := by
  rw [newId, newId, hs.ids, hs.drawn]

/-- The work by what it finds at the URL. -/
theorem run_saveWork (h : s.IsReady) :
    (∃ row old, s.txn.view.rowAt? c.url = some row ∧ row.decode = .ok old ∧ old.id.render = row.id ∧
        (saveWork c).run s = (Placement.write (.save (renewed c old)) id).run (Sync.tick s)) ∨
      s.txn.view.rowAt? c.url = none ∧ ∃ s₁ : Scene σ, s₁.IsCalm ∧ s₁.txn.view = s.txn.view ∧
        (saveWork c).run s =
          (Placement.write (.create (made c (newId c s.registry))) id).run s₁ := by
  have hfind := Sync.call_find h.isLive (Placement.ofCluster c).definition.url
  cases hrow : s.txn.view.rowAt? c.url with
  | some row =>
    obtain ⟨old, hdecode, hid⟩ := h.tidy.exists_cluster (Tables.rowAt?_eq_some hrow).1
    refine .inl ⟨row, old, rfl, hdecode, hid, ?_⟩
    rw [show s.txn.view.rowAt? (Placement.ofCluster c).definition.url = _ from hrow, Call.decode?,
      hdecode] at hfind
    rw [saveWork_eq, Placement.work, run, hfind]
    rfl
  | none =>
    obtain ⟨s₁, hrun, hcalm, hview⟩ := (Placement.ofCluster c).run_withNewId_of_isCalm h.tick
      fun new => Placement.write (.create (made c new)) id
    refine .inr ⟨rfl, s₁, hcalm, hview, ?_⟩
    rw [show s.txn.view.rowAt? (Placement.ofCluster c).definition.url = _ from hrow,
      Call.decode?] at hfind
    rw [saveWork_eq, Placement.work, run, hfind, ← newId_ofCluster]
    exact hrun

/-- Work on a row at the URL overwrites it, and answers its time of creation. -/
theorem run_saveWork_renewed (h : s.IsReady) (hrow : s.txn.view.rowAt? c.url = some row) :
    ∃ old now, row.decode = .ok old ∧ old.id.render = row.id ∧
      Ends (s.txn.view.put (row.overwrite now (renewed c old)))
        (.ok ⟨renewed c old, row.created, now⟩) ((saveWork c).run s) := by
  rcases run_saveWork h with ⟨row', old, hrow', hdecode, hid, hrun⟩ | ⟨hnone, -⟩
  · obtain rfl : row = row' := Option.some.inj (hrow.symm.trans hrow')
    obtain ⟨hmem, hurl⟩ := Tables.rowAt?_eq_some hrow
    have hkeyed := h.tidy.intact.keyed
    have hfound : s.txn.view.row? (renewed c old).id.render = some row :=
      (congrArg _ hid).trans (hkeyed.row?_of_mem hmem)
    have hreply : ((Sync.tick s).attempt (.save (renewed c old))).reply =
        .ok ⟨renewed c old, row.created, (Sync.tick s).time⟩ := by
      rw [Scene.attempt, h.tick.traps]
      refine Call.save_reply_iff.2 ⟨h.writable, row, hfound, rfl, ?_, rfl⟩
      -- no other row can be at the URL
      intro q hq hne hqurl
      have hsame : q = row := by
        by_contra hdifferent
        exact (hkeyed.ne hq hmem hdifferent).2 (hqurl.trans hurl.symm)
      exact hne (congrArg Row.id hsame)
    have heffect : (Call.save (renewed c old)).effect (Sync.tick s).time s.txn.view =
        s.txn.view.put (row.overwrite (Sync.tick s).time (renewed c old)) := by
      rw [Call.effect, hfound]
    refine ⟨old, (Sync.tick s).time, hdecode, hid, ?_⟩
    rw [hrun, ← heffect]
    exact h.tick.ends_of_call hreply rfl
  · rw [hrow] at hnone
    cases hnone

/-- Work on no row at the URL adds one, if its identifier is free. -/
theorem run_saveWork_made (h : s.IsReady) (hrow : s.txn.view.rowAt? c.url = none)
    (hfree : ∀ row ∈ s.txn.view.rows, row.id ≠ (newId c s.registry).render) :
    ∃ now, Ends (s.txn.view.add (Row.ofCluster now (made c (newId c s.registry))))
      (.ok ⟨made c (newId c s.registry), now, now⟩) ((saveWork c).run s) := by
  rcases run_saveWork h with ⟨row, -, hsome, -⟩ | ⟨-, s₁, hcalm, hview, hrun⟩
  · rw [hrow] at hsome
    cases hsome
  · have hurl : ∀ row ∈ s.txn.view.rows, row.url ≠ c.url := by
      simpa [Tables.rowAt?] using hrow
    have hreply : (s₁.attempt (.create (made c (newId c s.registry)))).reply =
        .ok ⟨made c (newId c s.registry), s₁.time, s₁.time⟩ := by
      rw [Scene.attempt, hcalm.traps, hview]
      exact Call.create_reply_iff.2 ⟨hcalm.writable, rfl, fun row hmem =>
        ⟨hfree row hmem, hurl row hmem⟩, rfl⟩
    refine ⟨s₁.time, ?_⟩
    rw [hrun, ← hview]
    exact hcalm.ends_of_call hreply rfl

/-- Work on no row at the URL fails, if its identifier has been taken. -/
theorem run_saveWork_taken (h : s.IsReady) (hrow : s.txn.view.rowAt? c.url = none)
    (htaken : row ∈ s.txn.view.rows) (hid : row.id = (newId c s.registry).render) :
    Ends s.txn.view (.error (.alreadyExists .cluster c.url)) ((saveWork c).run s) := by
  rcases run_saveWork h with ⟨row, -, hsome, -⟩ | ⟨-, s₁, hcalm, hview, hrun⟩
  · rw [hrow] at hsome
    cases hsome
  · have hreply : (s₁.attempt (.create (made c (newId c s.registry)))).reply =
        .error (.alreadyExists .cluster c.url) := by
      rw [Scene.attempt, hcalm.traps, hview]
      exact Call.create_reply_of_taken hcalm.writable htaken hid
    rw [hrun]
    exact hcalm.ends_of_call_error _ hreply rfl

end Service

end

/-! ### In a transaction of its own -/

/-- A cluster has been saved in a row: everything else is as it was, and the cluster is found. -/
structure Registry.Saves (r : Registry) (saved : Registered) (row : Row) (r' : Registry) : Prop where
  sets : r.database.tables.Sets row r'.database.tables
  found : ∀ url, withSlash url = saved.url → (Service.find url r').1 = .ok saved
  loaded : (Service.load saved.id r').1 = .ok saved

theorem Registry.saves_of_sets {r r' : Registry} {saved : Registered} {row : Row}
    (h : r.database.tables.Sets row r'.database.tables) (hdecode : row.decode = .ok saved)
    (hid : row.id = saved.id.render) : r.Saves saved row r' where
  sets := h
  found url hurl := by
    have hrow : r'.database.tables.rowAt? (withSlash url) = some row := by
      rw [hurl, congrArg Profile.url (Row.profile_of_decode hdecode)]
      exact h.rowAt?
    simp [Service.find, Registry.call, Database.call, hrow, Call.decode?, hdecode, Except.map,
      Service.found]
  loaded := by
    have hrow : r'.database.tables.row? saved.id.render = some row := hid ▸ h.row?
    simp [Service.load, Registry.call, Database.call, Call.perform, Call.writes, Call.run, Call.answer,
      hrow, Call.decode?, hdecode, Except.map, Service.found]

namespace Service

variable {service : Service} {who : Caller} {r : Registry} {terms : Terms} {c n : Cluster} {row : Row}

theorem execute_saveWork_renewed (h : r.IsReady) (hrow : r.database.tables.rowAt? c.url = some row) :
    ∃ old now, row.decode = .ok old ∧ old.id.render = row.id ∧
      (r.execute terms (saveWork c)).1 = .ok ⟨renewed c old, row.created, now⟩ ∧
      r.Saves ⟨renewed c old, row.created, now⟩ (row.overwrite now (renewed c old))
        (r.execute terms (saveWork c)).2 := by
  obtain ⟨s, hs, hready⟩ := h.exists_start terms
  have hview := (Context.starts hs).view
  obtain ⟨old, now, hdecode, hid, hend⟩ := run_saveWork_renewed hready (hview ▸ hrow)
  obtain ⟨hanswer, htables⟩ := Registry.execute_of_ends hs hend
  refine ⟨old, now, hdecode, hid, hanswer, ?_⟩
  apply Registry.saves_of_sets
  · rw [htables, hview]
    exact h.tidy.intact.keyed.sets_put hrow rfl
  · exact Row.decode_overwrite now hid.symm
  · exact hid.symm

theorem execute_saveWork_made (h : r.IsReady) (hrow : r.database.tables.rowAt? c.url = none)
    (hfree : ∀ row ∈ r.database.tables.rows, row.id ≠ (newId c r).render) :
    ∃ now, (r.execute terms (saveWork c)).1 = .ok ⟨made c (newId c r), now, now⟩ ∧
      r.Saves ⟨made c (newId c r), now, now⟩ (Row.ofCluster now (made c (newId c r)))
        (r.execute terms (saveWork c)).2 := by
  obtain ⟨s, hs, hready⟩ := h.exists_start terms
  have hstart := Context.starts hs
  have hview := hstart.view
  obtain ⟨now, hend⟩ := run_saveWork_made hready (hview ▸ hrow)
    (hview ▸ newId_of_starts hstart ▸ hfree)
  rw [newId_of_starts hstart] at hend
  obtain ⟨hanswer, htables⟩ := Registry.execute_of_ends hs hend
  refine ⟨now, hanswer, ?_⟩
  apply Registry.saves_of_sets
  · rw [htables, hview]
    exact h.tidy.intact.keyed.sets_add hrow hfree
  · exact Row.decode_ofCluster now _
  · rfl

theorem execute_saveWork_taken (h : r.IsReady) (hrow : r.database.tables.rowAt? c.url = none)
    (htaken : row ∈ r.database.tables.rows) (hid : row.id = (newId c r).render) :
    (r.execute terms (saveWork c)).1 = .error (.alreadyExists .cluster c.url) ∧
      (r.execute terms (saveWork c)).2.database.tables = r.database.tables := by
  obtain ⟨s, hs, hready⟩ := h.exists_start terms
  have hstart := Context.starts hs
  have hview := hstart.view
  have hend := run_saveWork_taken hready (hview ▸ hrow) (hview ▸ htaken)
    (newId_of_starts hstart ▸ hid)
  obtain ⟨hanswer, htables⟩ := Registry.execute_of_ends hs hend
  exact ⟨hanswer, htables⟩

/-- One way or another, what is saved is found, and what is refused changes nothing. -/
theorem execute_saveWork_cases (h : r.IsReady) (terms : Terms) (c : Cluster) :
    (∃ saved row, (r.execute terms (saveWork c)).1 = .ok saved ∧ saved.url = c.url ∧
        r.Saves saved row (r.execute terms (saveWork c)).2) ∨
      (∃ e, (r.execute terms (saveWork c)).1 = .error e) ∧
        (r.execute terms (saveWork c)).2.database.tables = r.database.tables := by
  cases hrow : r.database.tables.rowAt? c.url with
  | some row =>
    obtain ⟨old, now, -, -, hanswer, hsaves⟩ := execute_saveWork_renewed h hrow
    exact .inl ⟨_, _, hanswer, rfl, hsaves⟩
  | none =>
    by_cases hfree : ∀ row ∈ r.database.tables.rows, row.id ≠ (newId c r).render
    · obtain ⟨now, hanswer, hsaves⟩ := execute_saveWork_made h hrow hfree
      exact .inl ⟨_, _, hanswer, rfl, hsaves⟩
    · push Not at hfree
      obtain ⟨row, hmem, hid⟩ := hfree
      obtain ⟨hanswer, htables⟩ := execute_saveWork_taken h hrow hmem hid
      exact .inr ⟨⟨_, hanswer⟩, htables⟩

theorem save_of_normal (hallowed : service.policy.allows who = true) (hn : c.normalize = .ok n) :
    service.save who c r = r.execute service.terms (saveWork n) := by
  have hw : (Request.save c).work? = some (.ok (saveWork n)) := by
    simp [Request.work?, hn, Except.map]
  exact serve_of_allowed hallowed hw

theorem save_of_error {e : Error} (hallowed : service.policy.allows who = true)
    (hn : c.normalize = .error e) : service.save who c r = (.error e, r) := by
  simp [save, change, Policy.authorize, hallowed, hn, Except.map]

end Service

/-! ### Requests in a session -/

/-- What a request to save a cluster comes to. -/
structure Saving (r : Registry) (c : Cluster) (x : Except Error Registered × Registry) : Prop where
  /-- The cluster has no normal form. -/
  invalid : ∀ e, c.normalize = .error e →
    (∃ field message, e = .badParameter field message) ∧ x = (.error e, r)
  /-- There is a row at the URL: it is overwritten, and keeps its identifier and its time of
      creation, which are in the answer. -/
  renewed : ∀ n row, c.normalize = .ok n → r.database.tables.rowAt? n.url = some row →
    ∃ (old saved : Registered) (now : Nat), row.decode = .ok old ∧ old.id.render = row.id ∧
      saved = { n with
        id := old.id
        tokenProvider := firstGiven c.tokenProvider old.tokenProvider
        created := row.created
        updated := now } ∧
      x.1 = .ok saved ∧ r.Saves saved (row.overwrite now saved) x.2
  /-- There is none, and the identifier is free or a new one: a row is added, and the answer has the
      time of this. -/
  made : ∀ n, c.normalize = .ok n → r.database.tables.rowAt? n.url = none →
    (c.id = .nil ∨ ∀ row ∈ r.database.tables.rows, row.id ≠ c.id.render) →
    ∃ (id : Uuid) (saved : Registered) (now : Nat),
      id = (if c.id = .nil then r.ids r.drawn else c.id) ∧
      saved = { n with
        id
        tokenProvider := firstGiven c.tokenProvider id.render
        created := now
        updated := now } ∧
      x.1 = .ok saved ∧ r.Saves saved (Row.ofCluster now saved) x.2
  /-- There is none, and another row has the identifier. -/
  taken : ∀ n, c.normalize = .ok n → r.database.tables.rowAt? n.url = none → c.id ≠ .nil →
    (∃ row ∈ r.database.tables.rows, row.id = c.id.render) →
      x.1 = .error (.alreadyExists .cluster n.url) ∧ x.2.database.tables = r.database.tables
  /-- What has been saved is found under the URL in the request, whether or not it has its final
      slash. -/
  found : ∀ saved, x.1 = .ok saved → (Service.find c.url x.2).1 = .ok saved ∧
    (Service.load saved.id x.2).1 = .ok saved
  failed : ∀ e, x.1 = .error e → x.2.database.tables = r.database.tables

section

variable {r : Registry} {c n : Cluster}

theorem saving_of_error {e : Error} (hn : c.normalize = .error e) : Saving r c (.error e, r) where
  invalid e' he' := by
    cases hn.symm.trans he'
    exact ⟨c.blames_normalize e hn, rfl⟩
  renewed n row hok := nomatch hn.symm.trans hok
  made n hok := nomatch hn.symm.trans hok
  taken n hok := nomatch hn.symm.trans hok
  found saved hok := nomatch hok
  failed _ _ := rfl

/-- A cluster with a normal form is saved by the work on this form. -/
theorem saving_of_normal (h : r.IsReady) (hn : c.normalize = .ok n)
    (hfresh : c.id = .nil → ∀ row ∈ r.database.tables.rows, row.id ≠ (r.ids r.drawn).render)
    (terms : Terms) : Saving r c (r.execute terms (Service.saveWork n)) := by
  obtain ⟨hurl, hid, hprovider⟩ := Cluster.keys_of_normalize hn
  have hnew : Service.newId n r = if c.id = .nil then r.ids r.drawn else c.id := by
    rw [Service.newId, hid]
  have hends := Service.execute_saveWork_cases h terms n
  constructor
  case invalid => exact fun e herror => nomatch hn.symm.trans herror
  case renewed =>
    intro n' row hn' hrow
    cases hn.symm.trans hn'
    obtain ⟨old, now, hdecode, hold, hanswer, hsaves⟩ := Service.execute_saveWork_renewed h hrow
    exact ⟨old, _, now, hdecode, hold, by rw [Service.renewed, hprovider], hanswer, hsaves⟩
  case made =>
    intro n' hn' hrow hfree
    cases hn.symm.trans hn'
    have hfree : ∀ row ∈ r.database.tables.rows, row.id ≠ (Service.newId n r).render := by
      rw [hnew]
      split
      case isTrue hnil => exact hfresh hnil
      case isFalse hgiven => exact hfree.resolve_left hgiven
    obtain ⟨now, hanswer, hsaves⟩ := Service.execute_saveWork_made h hrow hfree
    exact ⟨_, _, now, hnew, by rw [Service.made, hprovider], hanswer, hsaves⟩
  case taken =>
    rintro n' hn' hrow hgiven ⟨row, hmem, htaken⟩
    cases hn.symm.trans hn'
    refine Service.execute_saveWork_taken h hrow hmem ?_
    rw [hnew, if_neg hgiven, htaken]
  case found =>
    intro saved hok
    rcases hends with ⟨saved', row, hanswer, hsaved, hsaves⟩ | ⟨⟨e, herror⟩, -⟩
    · cases hok.symm.trans hanswer
      exact ⟨hsaves.found c.url (hurl.symm.trans hsaved.symm), hsaves.loaded⟩
    · cases hok.symm.trans herror
  case failed =>
    intro e herror
    rcases hends with ⟨saved, row, hanswer, -, -⟩ | ⟨-, htables⟩
    · cases herror.symm.trans hanswer
    · exact htables

end

namespace Session

/-- A session in which no trap has been set leaves the registry ready. -/
theorem Reached.isReady {r : Registry} {s : Session} {b : Backend} (h : Reached r s)
    (hr : r.database = .create b) (hb : b.writable = true) (htraps : s.registry.database.traps = []) :
    s.registry.IsReady := by
  have hs := h.tidy hr
  refine ⟨⟨?_, htraps⟩, hs.committed⟩
  rw [hs.backend, hr]
  exact hb

/-- **What a request to save a cluster comes to**, after anything that may have gone on at a new
    database, as long as nothing fails there.  A new identifier is one that no row has. -/
theorem Reached.saving {r : Registry} {s : Session} {b : Backend} (h : Reached r s)
    (hr : r.database = .create b) (hb : b.writable = true) (htraps : s.registry.database.traps = [])
    {service : Service} {who : Caller} (hallowed : service.policy.allows who = true) {c : Cluster}
    (hfresh : c.id = .nil →
      ∀ row ∈ s.registry.database.tables.rows, row.id ≠ (s.registry.ids s.registry.drawn).render) :
    Saving s.registry c (service.save who c s.registry) := by
  cases hn : c.normalize with
  | error e =>
    rw [Service.save_of_error hallowed hn]
    exact saving_of_error hn
  | ok n =>
    rw [Service.save_of_normal hallowed hn]
    exact saving_of_normal (h.isReady hr hb htraps) hn hfresh service.terms

/-- A session in which a cluster has been saved. -/
def saved : Session :=
  ⟨(Run.service.save (.user .nil) Run.loopback ⟨.create .sqlite, fun n => ⟨n + 7⟩, 0⟩).2, [], []⟩

/-- The cluster under another identifier, another cluster under its identifier, and a new one. -/
def wanted : List Cluster :=
  [{ Run.loopback with id := ⟨2⟩ }, { Run.loopback with url := "http://[::2]" },
    { Run.loopback with url := "http://[::2]", id := .nil }]

theorem saved_saving :
    Reached ⟨.create .sqlite, fun n => ⟨n + 7⟩, 0⟩ saved ∧ saved.registry.database.traps = [] ∧
      (∀ c ∈ wanted, Saving saved.registry c (Run.service.save (.user .nil) c saved.registry)) ∧
      wanted.map (fun c => (Run.service.save (.user .nil) c saved.registry).1.toOption.map
          fun a => (a.id, a.created, a.updated)) =
        [some (⟨1⟩, 3, 6), none, some (⟨7⟩, 6, 6)] := by
  have h : Reached ⟨.create .sqlite, fun n => ⟨n + 7⟩, 0⟩ saved :=
    .step .start (.request Run.service (.user .nil) (.save Run.loopback))
  have htraps : saved.registry.database.traps = [] := by decide +kernel
  have hfresh : ∀ row ∈ saved.registry.database.tables.rows,
      row.id ≠ (saved.registry.ids saved.registry.drawn).render := by decide +kernel
  refine ⟨h, htraps, fun c _ => ?_, by decide +kernel⟩
  exact h.saving rfl rfl htraps rfl fun _ => hfresh

end Session

end Fleet
