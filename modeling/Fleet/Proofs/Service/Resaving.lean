/-
  Fleet/Proofs/Service/Resaving.lean
  ==================================
  **What has been saved can be saved again.**

  A normal form is a valid cluster that is its own normal form.  The endpoints that are derived for
  the blank ones have their final slash already, so that a second round, which sees the URLs as they
  have been rewritten, has nothing to fill in and nothing to rewrite (`Cluster.normalForm_of_normalize`).

  What a request to save a cluster answers is its normal form under an identifier and with a token
  provider, neither of which matters to the normal form, and it is what the row at the URL now holds
  (`Service.stored_of_saveWork`).  So to save this answer once more overwrites the row with what is in
  it, and only the time of the update is a new one (`Service.refreshes_saveWork`).
-/
import Fleet.Proofs.Service.Saving
import Fleet.Proofs.Sync.History

namespace Fleet

open Fleet.Text Fleet.Store Fleet.Work

/-! ### Normal forms -/

namespace Cluster

/-- What stands for a URL beside that of the API: the text itself with its final slash, unless it is
    blank, and otherwise what is derived from the URL of the API. -/
inductive StandsFor (url key : String) : String → String → Prop where
  | given {text : String} : isBlankText text = false → StandsFor url key text (withSlash text)
  | derived {text derived : String} {api : Url} : isBlankText text = true →
      Endpoint.parse url = .ok api → Config.defaultUrl? key api = some derived →
      StandsFor url key text derived

/-- What is known of the normal form `n` of a cluster `c`. -/
structure NormalForm (c n : Cluster) : Prop where
  valid : n.check = .ok ()
  fixed : n.normalize = .ok n
  /-- Nothing is changed but the URLs. -/
  kept : n.withUrls c.url c.consoleUrl c.metricsUrl c.loggingUrl = c
  url : n.url = withSlash c.url
  consoleUrl : StandsFor c.url "console-url" c.consoleUrl n.consoleUrl
  metricsUrl : StandsFor c.url "metrics-url" c.metricsUrl n.metricsUrl
  loggingUrl : StandsFor c.url "logging-url" c.loggingUrl n.loggingUrl

variable {c n : Cluster} {api : Url} {key text filled : String}

theorem standsFor_of_besideApi (hapi : Endpoint.parse c.url = .ok api)
    (h : besideApi api key text = .ok filled) : StandsFor c.url key text filled := by
  unfold besideApi at h
  split at h
  · rename_i hblank
    cases hderived : Config.defaultUrl? key api with
    | none =>
      rw [hderived] at h
      cases h
    | some s =>
      rw [hderived] at h
      cases h
      exact .derived hblank hapi hderived
  · rename_i hblank
    cases h
    exact .given (Bool.eq_false_iff.2 hblank)

theorem withSlash_of_defaultUrl? (hapi : api.Tidy) (h : Config.defaultUrl? key api = some filled) :
    withSlash filled = filled := by
  unfold Config.defaultUrl? at h
  split at h
  · rename_i label path hlookup
    have hrule := Endpoint.isRule_of_mem_defaults (Config.Field.mem_defaults_of_lookup hlookup)
    exact (Endpoint.isValid_of_derive? hapi hrule h).1
  · cases h

theorem StandsFor.withSlash_eq {url : String} (h : StandsFor url key text filled) :
    withSlash filled = filled := by
  cases h with
  | given hblank => exact withSlash_withSlash text
  | derived hblank hapi hderived => exact withSlash_of_defaultUrl? (Endpoint.tidy_of_parse hapi) hderived

theorem withSlash_of_normalize (h : c.normalize = .ok n) : ∀ p ∈ n.urls, withSlash p.2 = p.2 := by
  obtain ⟨api, console, metrics, logging, hapi, hconsole, hmetrics, hlogging, rfl, -⟩ :=
    normalize_eq_ok_iff.1 h
  simp only [Cluster.urls, withUrls, List.forall_mem_cons]
  refine ⟨withSlash_withSlash c.url, ?_, ?_, ?_, by simp⟩
  · exact (standsFor_of_besideApi hapi hconsole).withSlash_eq
  · exact (standsFor_of_besideApi hapi hmetrics).withSlash_eq
  · exact (standsFor_of_besideApi hapi hlogging).withSlash_eq

/-- A normal form is its own normal form, under any identifier and with any token provider. -/
theorem normalize_withId (h : c.normalize = .ok n) (id : Uuid) (tokenProvider : String) :
    (n.toDefinition.withId id tokenProvider).normalize =
      .ok (n.toDefinition.withId id tokenProvider) := by
  have hcheck := check_of_normalize h
  have hslash := withSlash_of_normalize h
  apply normalize_eq_self
  · exact hcheck
  · exact hslash

/-- **To normalize is to project on the valid clusters that stay as they are.** -/
theorem normalForm_of_normalize (h : c.normalize = .ok n) : NormalForm c n := by
  have hfixed : n.normalize = .ok n := normalize_withId h n.id n.tokenProvider
  obtain ⟨api, console, metrics, logging, hapi, hconsole, hmetrics, hlogging, rfl, hcheck⟩ :=
    normalize_eq_ok_iff.1 h
  exact {
    valid := hcheck
    fixed := hfixed
    kept := by simp
    url := rfl
    consoleUrl := standsFor_of_besideApi hapi hconsole
    metricsUrl := standsFor_of_besideApi hapi hmetrics
    loggingUrl := standsFor_of_besideApi hapi hlogging }

end Cluster

/-! ### What has been saved -/

namespace Store

/-- A row that is written over with what it holds differs in the time of its update only. -/
theorem Row.overwrite_of_decode {row : Row} {c : Registered} (h : row.decode = .ok c) (now : Nat) :
    row.overwrite now c = { row with updated := now } := by
  have hkind : c.kind.name = row.kind := Row.kind_of_decode h
  rw [overwrite, Row.profile_of_decode h, hkind]

/-- What is answered to a call that writes a cluster is this cluster, and it is found at its URL with
    the same times. -/
theorem Call.stored_of_reply {b : Backend} {traps : List Trap} {now : Nat} {t : Tables} (hk : t.Keyed)
    {call : Call Registered} {c : Cluster} {a : Registered} (hcall : call = .save c ∨ call = .create c)
    (h : (call.perform b traps now t).reply = .ok a) :
    a.toCluster = c ∧
      ∃ row, (call.perform b traps now t).tables.rowAt? c.url = some row ∧ row.decode = .ok a := by
  have hafter : (call.perform b traps now t).tables.Keyed := Call.keyed_perform call hk
  rw [Call.perform_tables_of_ok h] at hafter ⊢
  rcases hcall with rfl | rfl
  · obtain ⟨-, row, hrow, -, -, rfl⟩ := Call.save_reply_iff.1 h
    obtain ⟨hmem, hid⟩ := Tables.row?_eq_some hrow
    refine ⟨rfl, row.overwrite now c, ?_, Row.decode_overwrite now hid⟩
    simp only [Call.effect, hrow] at hafter ⊢
    exact hafter.rowAt?_of_mem (List.mem_map.2 ⟨row, hmem, if_pos rfl⟩)
  · obtain ⟨-, -, -, rfl⟩ := Call.create_reply_iff.1 h
    refine ⟨rfl, Row.ofCluster now c, ?_, Row.decode_ofCluster now c⟩
    exact hafter.rowAt?_of_mem (List.mem_append_right _ (List.mem_singleton_self _))

end Store

namespace Work

/-- A cluster is found at its URL by a transaction that can go on. -/
structure Scene.Stores {σ : Type} (s : Scene σ) (c : Registered) : Prop where
  isLive : s.IsLive
  found : ∃ row, s.txn.view.rowAt? c.url = some row ∧ row.decode = .ok c

end Work

namespace Placement

variable {σ : Type} {p : Placement} {s : Scene σ} {a c : Registered}

theorem stores_of_write (hk : s.txn.view.Keyed) {call : Call Registered} {d : Cluster}
    (hcall : call = .save d ∨ call = .create d) (h : ((write call id).run s).1 = .done a) :
    a.toCluster = d ∧ ((write call id).run s).2.Stores a := by
  obtain ⟨written, hanswer, rfl, hscene⟩ := answered_of_write h
  obtain ⟨hlive, hreply, hafter⟩ := Scene.call_of_ok hanswer
  obtain ⟨rfl, hfound⟩ := Call.stored_of_reply hk hcall hreply
  rw [hscene, hafter]
  exact ⟨rfl, hlive.afterCall hreply, hfound⟩

/-- **A placement that is done has stored what it answers**, which is its definition under some
    identifier, with some token provider, and with the times of its row. -/
theorem stores_of_work (hlive : s.IsLive) (hk : s.txn.view.Keyed)
    (hsound : ∀ row ∈ s.txn.view.rows, row.IsSound)
    (h : ((p.work fun _ written => written).run s).1 = .done a) :
    (∃ id tokenProvider, a.toCluster = p.definition.withId id tokenProvider) ∧
      ((p.work fun _ written => written).run s).2.Stores a := by
  cases hrow : s.txn.view.rowAt? p.definition.url with
  | some row =>
    obtain ⟨old, hdecode, -⟩ := (hsound row (Tables.rowAt?_eq_some hrow).1).decode
    rw [run_work_renew _ hlive hrow hdecode] at h ⊢
    obtain ⟨hwritten, hstores⟩ := stores_of_write (s := Sync.tick s) hk (.inl rfl) h
    exact ⟨⟨_, _, hwritten⟩, hstores⟩
  | none =>
    obtain ⟨s₁, -, htxn, hrun⟩ := run_work_make (fun _ written => written) hlive hrow
    rw [hrun] at h ⊢
    obtain ⟨hwritten, hstores⟩ := stores_of_write (htxn ▸ hk) (.inr rfl) h
    exact ⟨⟨_, _, hwritten⟩, hstores⟩

/-- Where the cluster is stored already, what the row holds is written over it. -/
theorem Placed.refreshed {t t' : Tables} {id : Uuid} {row : Row} (h : Placed (ofCluster c) id t t')
    (hrow : t.rowAt? c.url = some row) (hdecode : row.decode = .ok c) :
    ∃ now, t' = t.put { row with updated := now } := by
  cases h with
  | made now hnone => cases hnone.symm.trans hrow
  | @renewed now row' old hrow' hdecode' hid htables =>
    obtain rfl : row = row' := Option.some.inj (hrow.symm.trans hrow')
    obtain rfl : c = old := Except.ok.inj (hdecode.symm.trans hdecode')
    have hsame : (ofCluster c).renew c = c.toCluster := by
      rw [renew, ofCluster, Sync.firstGiven_self]
      rfl
    refine ⟨now, ?_⟩
    rw [htables, hsame, Row.overwrite_of_decode hdecode]

end Placement

/-! ### Saving it again -/

/-- To save a stored cluster once more comes to this: nothing is changed but the time at which its row
    has been updated, and it is answered with this time. -/
def Registry.Refreshes (r : Registry) (c : Registered) (x : Except Error Registered × Registry) : Prop :=
  ∃ row now, r.database.tables.rowAt? c.url = some row ∧ row.decode = .ok c ∧
    x.1 = .ok { c with updated := now } ∧
    x.2.database.tables = r.database.tables.put { row with updated := now }

namespace Service

variable {r r' : Registry} {terms : Terms} {c : Cluster} {saved : Registered}

theorem stored_of_saveWork (ht : r.database.tables.IsTidy)
    (h : r.execute terms (saveWork c) = (.ok saved, r')) :
    (∃ id tokenProvider, saved.toCluster = c.toDefinition.withId id tokenProvider) ∧
      ∃ row, r'.database.tables.rowAt? saved.url = some row ∧ row.decode = .ok saved := by
  rw [saveWork_eq] at h
  obtain ⟨hanswer, rfl⟩ := Prod.mk.inj h
  obtain ⟨s, hs, hdone, hcommitted⟩ := Context.exists_run_of_done (Registry.answer_eq_ok.1 hanswer)
  have hstart := Context.starts hs
  obtain ⟨hdefinition, hstores⟩ := Placement.stores_of_work hstart.isLive
    (hstart.view ▸ ht.intact.keyed) (hstart.view ▸ ht.sound) hdone
  obtain ⟨row, hrow, hdecode⟩ := hstores.found
  have htables := congrArg (·.rowAt? saved.url) (hcommitted hstores.isLive)
  exact ⟨hdefinition, row, htables.trans hrow, hdecode⟩

theorem refreshes_saveWork {c : Registered} (ht : r.database.tables.IsTidy) {row : Row}
    (hrow : r.database.tables.rowAt? c.url = some row) (hdecode : row.decode = .ok c)
    (hstart : r.database.traps.find? (·.point = .start) = none)
    (hwritable : r.database.backend.writable = true)
    (hupdate : sprung? r.database.traps .update c.name = none) :
    r.Refreshes c (r.execute terms (saveWork c)) := by
  have hclear : (Placement.ofCluster c).Clear r.database ((Placement.ofCluster c).newId r) := by
    have hthere : r.database.tables.rowAt? (Placement.ofCluster c).definition.url = some row := hrow
    refine ⟨hstart, ⟨hwritable, fun _ => hupdate, ?_⟩, ?_⟩
    · intro hnone
      cases hnone.symm.trans hthere
    · rw [Placement.isDoomed, hthere]
      rfl
  cases settles_saveWork terms c ht.intact.keyed ht.sound with
  | error hnot => exact absurd hclear hnot
  | @ok saved r' _ hrun hplaced =>
    obtain ⟨now, htables⟩ := hplaced.refreshed hrow hdecode
    obtain ⟨⟨id, tokenProvider, hdefinition⟩, stored, hstored, hanswer⟩ := stored_of_saveWork ht hrun
    have hthere : row.url = c.url := (Tables.rowAt?_eq_some hrow).2
    have hurl : saved.url = row.url := by
      rw [hdefinition, hthere]
      rfl
    have hsets : r.database.tables.Sets { row with updated := now } r'.database.tables := by
      rw [htables]
      rw [← hthere] at hrow
      exact ht.intact.keyed.sets_put hrow rfl
    -- the answer is what the row holds, and this is the cluster still
    have hsame : stored = { row with updated := now } :=
      Option.some.inj (hstored.symm.trans (hurl ▸ hsets.rowAt?))
    have hkept : stored.decode = .ok { c with updated := now } := by
      rw [hsame, Row.decode_setTimes row row.created now, hdecode, ← (Row.times_of_decode hdecode).1]
      rfl
    rw [hrun]
    exact ⟨row, now, hrow, hdecode, hanswer.symm.trans hkept, htables⟩

theorem clear_of_saveWork (ht : r.database.tables.IsTidy)
    (h : r.execute terms (saveWork c) = (.ok saved, r')) :
    (Placement.ofCluster c).Clear r.database ((Placement.ofCluster c).newId r) := by
  cases settles_saveWork terms c ht.intact.keyed ht.sound with
  | ok hclear => exact hclear
  | error _ hrun => cases h.symm.trans hrun

theorem exists_normalize_of_save {service : Service} {who : Caller}
    (h : service.save who c r = (.ok saved, r')) :
    ∃ n, c.normalize = .ok n ∧ r.execute service.terms (saveWork n) = (.ok saved, r') := by
  cases hallowed : service.policy.allows who with
  | false =>
    simp [save, change, Policy.authorize, hallowed] at h
  | true =>
    cases hn : c.normalize with
    | error e =>
      rw [save_of_error hallowed hn] at h
      cases h
    | ok n =>
      rw [save_of_normal hallowed hn] at h
      exact ⟨n, rfl, h⟩

end Service

namespace Session

/-- **To normalize is to project on valid clusters, and what a request has saved can be saved again.**
    To save it once more, as it has been answered and as long as its row can be written to, changes
    nothing but the time of the update. -/
theorem Reached.projection {r : Registry} {s : Session} {b : Backend} (h : Reached r s)
    (hr : r.database = .create b) :
    (∀ c n : Cluster, c.normalize = .ok n → Cluster.NormalForm c n) ∧
      ∀ (service : Service) (who : Caller) (c : Cluster) (saved : Registered) (r' : Registry),
        service.save who c s.registry = (.ok saved, r') →
        ∀ (service' : Service) (who' : Caller), service'.policy.allows who' = true →
          sprung? r'.database.traps .update saved.name = none →
          r'.Refreshes saved (service'.save who' saved r') := by
  have htidy : s.registry.database.tables.IsTidy := (h.tidy hr).committed
  refine ⟨fun c n hn => Cluster.normalForm_of_normalize hn, ?_⟩
  intro service who c saved r' hsave service' who' hallowed hupdate
  have hafter : Reached r { s with registry := r' } := by
    have hstep := h.step (.request service who (.save c))
    rwa [Service.serve, hsave] at hstep
  obtain ⟨n, hn, hrun⟩ := Service.exists_normalize_of_save hsave
  obtain ⟨⟨id, tokenProvider, hsaved⟩, row, hrow, hdecode⟩ := Service.stored_of_saveWork htidy hrun
  have hfixed : saved.normalize = .ok saved := by
    rw [hsaved]
    exact Cluster.normalize_withId hn id tokenProvider
  have hclear := Service.clear_of_saveWork htidy hrun
  have hcontinues : s.registry.Continues r' := by
    have hexecute := s.registry.continues_execute service.terms (Service.saveWork n)
    rwa [hrun] at hexecute
  rw [Service.save_of_normal hallowed hfixed]
  apply Service.refreshes_saveWork (hafter.tidy hr).committed hrow hdecode
  · rw [hcontinues.traps]
    exact hclear.start
  · rw [hcontinues.backend]
    exact hclear.permitted.writable
  · exact hupdate

/-- A cluster that leaves two of its URLs blank, and gives the others without a final slash. -/
def sketch : Cluster :=
  { Run.loopback with
    url := "https://api.example.com", consoleUrl := "", metricsUrl := " ",
    loggingUrl := "https://log.example.com/l", id := .nil }

def fullSketch : Cluster :=
  { sketch with
    url := "https://api.example.com/", consoleUrl := "https://console.example.com/console/",
    metricsUrl := "https://metrics.example.com/", loggingUrl := "https://log.example.com/l/" }

def savedSketch : Registered := ⟨fullSketch.toDefinition.withId ⟨7⟩ (Uuid.render ⟨7⟩), 3, 3⟩

/-- It is saved at a new database, where it gets an identifier and the time of its creation. -/
def sketched : Except Error Registered × Registry :=
  Run.service.save (.user .nil) sketch ⟨.create .sqlite, fun n => ⟨n + 7⟩, 0⟩

theorem sketch_projection :
    Cluster.NormalForm sketch fullSketch ∧ sketched.1 = .ok savedSketch ∧
      sketched.2.Refreshes savedSketch
        (Run.service.save (.user .nil) savedSketch sketched.2) := by
  have h : Reached ⟨.create .sqlite, fun n => ⟨n + 7⟩, 0⟩
    ⟨⟨.create .sqlite, fun n => ⟨n + 7⟩, 0⟩, [], []⟩ := .start
  obtain ⟨hforms, hagain⟩ := h.projection rfl
  have hnormal : sketch.normalize = .ok fullSketch := Registry.ok_of_toOption (by decide +kernel)
  have hanswer : sketched.1 = .ok savedSketch := Registry.ok_of_toOption (by decide +kernel)
  have hsave : sketched = (.ok savedSketch, sketched.2) := by rw [← hanswer]
  have hupdate : sprung? sketched.2.database.traps .update savedSketch.name = none := by
    decide +kernel
  exact ⟨hforms _ _ hnormal, hanswer, hagain _ _ _ _ _ hsave _ _ rfl hupdate⟩

end Session

end Fleet
