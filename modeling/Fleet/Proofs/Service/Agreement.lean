/-
  Fleet/Proofs/Service/Agreement.lean
  ===================================
  **Saving a definition and syncing it come to the same.**

  A request to save a definition and a sync of the snapshot that holds nothing else are placements
  of the same definition.  They succeed under the same conditions, since what stands in the way of a
  placement depends on its definition only (`Placement.Clear.transfer`).  They differ in what stands in
  for the token provider of a cluster that is overwritten, but where no token provider is empty this
  is the same as well, and then they leave the same rows behind (`Placement.Placed.matches`).

  That no token provider is empty, and that a definition is in normal form, is known of registries
  and of cluster files: so for these the two agree (`Registry.Reached.save_agrees_sync`).
-/
import Fleet.Proofs.Service.Identity
import Fleet.Proofs.Sync.History

namespace Fleet

open Fleet.Store Fleet.Text Fleet.Work

/-! ### Rows that match -/

/-- The rows are the same, but for the times at which they were written, and for the identifiers
    of clusters that are new. -/
inductive Store.Row.Matches (id id' : Uuid) (a : Row) : Row → Prop where
  | same (updated : Nat) : Matches id id' a { a with updated }
  | created (given : String) (created updated : Nat) :
      a.id = id.render → a.tokenProvider = firstGiven given id.render →
      Matches id id' a
        { a with id := id'.render, tokenProvider := firstGiven given id'.render, created, updated }

theorem Store.Row.Matches.refl {id id' : Uuid} (a : Row) : Row.Matches id id' a a := .same a.updated

theorem Store.Tables.forall₂_put {R : Row → Row → Prop} {t : Tables} {a b : Row} (hid : b.id = a.id)
    (hab : R a b) (hrefl : ∀ r, R r r) : List.Forall₂ R (t.put a).rows (t.put b).rows := by
  apply List.forall₂_map_left_iff.2
  apply List.forall₂_map_right_iff.2
  apply List.forall₂_same.2
  intro r _
  by_cases hr : r.id = a.id
  · rw [if_pos hr, if_pos (hr.trans hid.symm)]
    exact hab
  · rw [if_neg hr, if_neg (fun h => hr (h.trans hid))]
    exact hrefl r

namespace Placement

variable {p q : Placement} {id id' : Uuid} {t t₁ t₂ : Tables} {db db' : Database}

/-- **Two placements of one definition leave rows behind that match.** -/
theorem Placed.matches (h₁ : Placed p id t t₁) (h₂ : Placed q id' t t₂)
    (hdefinition : p.definition = q.definition)
    (hstandIn : ∀ row ∈ t.rows, ∀ c, row.decode = .ok c → p.standIn c = q.standIn c) :
    t₁.links = t₂.links ∧ List.Forall₂ (Row.Matches id id') t₁.rows t₂.rows := by
  cases h₁ with
  | @renewed now row old hrow hdecode hid htables =>
    cases h₂ with
    | @renewed now' row' old' hrow' hdecode' hid' htables' =>
      rw [hdefinition] at hrow
      obtain rfl : row = row' := Option.some.inj (hrow.symm.trans hrow')
      obtain rfl : old = old' := Except.ok.inj (hdecode.symm.trans hdecode')
      have hrenew : p.renew old = q.renew old := by
        rw [renew, renew, hdefinition, hstandIn row (Tables.rowAt?_eq_some hrow).1 old hdecode]
      rw [htables, htables', hrenew]
      refine ⟨rfl, ?_⟩
      -- what is written over the row differs in the time only
      exact Tables.forall₂_put rfl (.same now') .refl
    | made now' hrow' =>
      rw [hdefinition, hrow'] at hrow
      cases hrow
  | made now hrow hfree htables =>
    cases h₂ with
    | renewed now' hrow' =>
      rw [hdefinition, hrow'] at hrow
      cases hrow
    | made now' hrow' hfree' htables' =>
      rw [htables, htables']
      refine ⟨rfl, ?_⟩
      apply List.rel_append
      · apply List.forall₂_same.2
        intro r _
        exact .refl r
      · refine .cons ?_ .nil
        rw [make, make, hdefinition]
        exact .created q.definition.tokenProvider now' now' rfl rfl

theorem Clear.transfer (h : p.Clear db id) (hdefinition : p.definition = q.definition)
    (htables : db'.tables = db.tables) (hbackend : db'.backend = db.backend)
    (htraps : db'.traps = db.traps)
    (hfree : (∀ row ∈ db.tables.rows, row.id ≠ id.render) →
      ∀ row ∈ db.tables.rows, row.id ≠ id'.render) : q.Clear db' id' := by
  constructor
  · rw [htraps]
    exact h.start
  · rw [htables, hbackend, htraps]
    constructor
    · exact h.permitted.writable
    · rw [← hdefinition]
      exact h.permitted.update
    · rw [← hdefinition]
      intro hnone
      obtain ⟨hsprung, hids⟩ := h.permitted.insert hnone
      exact ⟨hsprung, hfree hids⟩
  · rw [htables, htraps, isDoomed, ← hdefinition]
    exact h.commit

end Placement

/-! ### The two ways to write a definition -/

namespace Registry

/-- The other registry stores the same in the same way.  Its clock and its source of identifiers
    may be others. -/
structure IsTwin (r r' : Registry) : Prop where
  tables : r'.database.tables = r.database.tables
  backend : r'.database.backend = r.database.backend
  traps : r'.database.traps = r.database.traps

/-- The two have come to the same: both have failed, and nothing has been written, or both have
    succeeded, and the rows match. -/
inductive Agree (id id' : Uuid) (r : Registry) :
    Except Error α × Registry → Except Error β × Registry → Prop where
  | failed {e e' : Error} {r₁ r₂ : Registry} :
      r₁.database.tables = r.database.tables → r₂.database.tables = r.database.tables →
      Agree id id' r (.error e, r₁) (.error e', r₂)
  | succeeded {a : α} {b : β} {r₁ r₂ : Registry} :
      r₁.database.tables.links = r₂.database.tables.links →
      List.Forall₂ (Row.Matches id id') r₁.database.tables.rows r₂.database.tables.rows →
      Agree id id' r (.ok a, r₁) (.ok b, r₂)

end Registry

theorem Placement.Settles.agree {p q : Placement} {r r' : Registry} {x : Except Error α × Registry}
    {y : Except Error β × Registry} (hx : p.Settles r x) (hy : q.Settles r' y)
    (htwin : r.IsTwin r') (hdefinition : p.definition = q.definition)
    (hstandIn : ∀ row ∈ r.database.tables.rows, ∀ c, row.decode = .ok c →
      p.standIn c = q.standIn c)
    (hfree : (∀ row ∈ r.database.tables.rows, row.id ≠ (p.newId r).render) ↔
      ∀ row ∈ r.database.tables.rows, row.id ≠ (q.newId r').render) :
    Registry.Agree (p.newId r) (q.newId r') r x y := by
  have hclear : p.Clear r.database (p.newId r) ↔ q.Clear r'.database (q.newId r') := by
    constructor
    · intro hclear
      exact hclear.transfer hdefinition htwin.tables htwin.backend htwin.traps hfree.1
    · intro hclear
      have hback := hfree.2
      rw [← htwin.tables] at hback
      exact hclear.transfer hdefinition.symm htwin.tables.symm htwin.backend.symm htwin.traps.symm
        hback
  cases hx with
  | ok hfirst hrun hplaced =>
    cases hy with
    | ok hsecond hrun' hplaced' =>
      rw [hrun, hrun']
      rw [htwin.tables] at hplaced'
      obtain ⟨hlinks, hrows⟩ := hplaced.matches hplaced' hdefinition hstandIn
      exact .succeeded hlinks hrows
    | error hsecond => exact absurd (hclear.1 hfirst) hsecond
  | error hfirst hrun htables =>
    cases hy with
    | ok hsecond => exact absurd (hclear.2 hsecond) hfirst
    | error hsecond hrun' htables' =>
      rw [hrun, hrun']
      exact .failed htables (htables'.trans htwin.tables)

theorem Sync.fares_work {d : Definition} {s : Scene σ} (hlive : s.IsLive)
    (hk : s.txn.view.Keyed) (hsound : ∀ row ∈ s.txn.view.rows, row.IsSound) :
    (Placement.ofDefinition d).Fares (work (.ofList [d])) s := by
  have hupsert : (Placement.ofDefinition d).Fares (upsert d) s := by
    rw [upsert_eq_work]
    exact Placement.fares_work hlive hk hsound
  cases hupsert with
  | @done isNew s' hpermitted hrun hcompletes =>
    have hwork : (work (.ofList [d])).run s = (.done (tally ⟨0, 0⟩ isNew), s') :=
      (run_writeAll_cons ⟨0, 0⟩ d [] s).trans (by rw [hrun]; rfl)
    exact .done hpermitted hwork hcompletes
  | @failed why s' hnot hrun =>
    have hwork : (work (.ofList [d])).run s = (.failed (.within (describe d) why), s') :=
      (run_writeAll_cons ⟨0, 0⟩ d [] s).trans (by rw [hrun])
    exact .failed hnot hwork

theorem Registry.settles_sync {r : Registry} {terms : Terms} {d : Definition}
    (h : r.database.tables.IsOrderly) :
    (Placement.ofDefinition d).Settles r (r.sync terms (.ofList [d])) := by
  apply Placement.settles_of_fares
  intro s hs
  apply Sync.fares_work hs.isLive
  · rw [hs.view]
    exact h.keyed
  · rw [hs.view]
    exact h.sound

theorem Service.settles_save {r : Registry} {service : Service} {who : Caller} {c : Cluster}
    (h : r.database.tables.IsOrderly) (hallowed : service.policy.authorize who .save = .ok ())
    (hnormal : c.normalize = .ok c) :
    (Placement.ofCluster c).Settles r (service.save who c r) := by
  have hsave : service.save who c r = r.execute service.terms (saveWork c) := by
    unfold save change
    rw [hallowed, hnormal]
    rfl
  rw [hsave]
  exact settles_saveWork service.terms c h.keyed h.sound

/-- **The two ways to write a definition agree.**  Whatever has happened to the registry, to sync
    the definition of a cluster file and to ask for it to be saved come to the same, provided that
    the definition leaves no URL blank. -/
theorem Registry.Reached.save_agrees_sync {files : String → Prop} {b : Backend}
    {r₀ r r' : Registry} (h : Reached files r₀ r) (hcreated : r₀.database = .create b)
    (htwin : r.IsTwin r')
    (hfree : (∀ row ∈ r.database.tables.rows, row.id ≠ (r.ids r.drawn).render) ↔
      ∀ row ∈ r.database.tables.rows, row.id ≠ (r'.ids r'.drawn).render)
    {text : String} {s : Snapshot} {d : Definition} (htext : Config.ofText text = .ok s)
    (hd : d ∈ s.definitions)
    (hurls : ∀ url ∈ [d.consoleUrl, d.metricsUrl, d.loggingUrl], isBlankText url = false)
    (terms : Terms) (service : Service) (who : Caller)
    (hallowed : service.policy.authorize who .save = .ok ()) :
    Agree (r.ids r.drawn) (r'.ids r'.drawn) r (r.sync terms (.ofList [d]))
      (service.save who (d.withId .nil d.tokenProvider) r') := by
  have horderly := h.isOrderly hcreated
  have horderly' : r'.database.tables.IsOrderly := htwin.tables ▸ horderly
  have hnormal : (d.withId .nil d.tokenProvider).normalize = .ok (d.withId .nil d.tokenProvider) := by
    apply Definition.normalize_of_ofText htext hd
    obtain ⟨hconsole, hmetrics, hlogging⟩ : isBlankText d.consoleUrl = false ∧
        isBlankText d.metricsUrl = false ∧ isBlankText d.loggingUrl = false := by
      simpa using hurls
    have hurl : isBlankText d.url = false :=
      (Definition.isKey_of_ofText htext hd).1 ▸ Config.isBlankText_withSlash d.url
    simp [Cluster.urls, Definition.withId, hurl, hconsole, hmetrics, hlogging]
  have hsync : (Placement.ofDefinition d).Settles r (r.sync terms (.ofList [d])) :=
    settles_sync horderly
  have hsave : (Placement.ofCluster (d.withId .nil d.tokenProvider)).Settles r'
      (service.save who (d.withId .nil d.tokenProvider) r') :=
    Service.settles_save horderly' hallowed hnormal
  refine hsync.agree hsave htwin rfl ?_ hfree
  -- a row has a token provider, so that a sync needs no other one to stand in
  intro row hrow c hc
  have hprovider : c.tokenProvider = row.tokenProvider :=
    congrArg Profile.tokenProvider (Row.profile_of_decode hc)
  apply Sync.firstGiven_of_ne
  rw [hprovider]
  exact horderly.furnished row hrow

/-! ### A definition for a cluster that is there already -/

namespace Registry

def loopback : Definition where
  name := "one"
  url := "http://[::1]/"
  consoleUrl := "http://[::1]/console/"
  metricsUrl := "http://[::1]/metrics/"
  loggingUrl := "http://[::1]/logging/"
  appDns := "one"
  full := false
  token := "token"
  tokenUser := "user"
  tokenEncrypted := true
  clientId := "id"
  clientSecret := "secret"
  clientScope := "scope"
  tokenProvider := ""
  kind := .oso

/-- The registry with one cluster, at another time and with another source of identifiers. -/
def savedLater : Registry :=
  { saved with database := { saved.database with clock := 9 }, ids := fun k => ⟨k + 7⟩ }

theorem saved_agrees :
    Reached (fun _ => False) (Context.blank .sqlite) saved ∧ saved.IsTwin savedLater ∧
      Config.ofText Config.loopbackText = .ok Config.loopbackSnapshot ∧
      loopback ∈ Config.loopbackSnapshot.definitions ∧
      (saved.database.tables.rowAt? loopback.url).isSome = true ∧
      (saved.sync Context.halfMinute (.ofList [loopback])).1.toOption = some ⟨0, 1⟩ ∧
      Agree (saved.ids saved.drawn) (savedLater.ids savedLater.drawn) saved
        (saved.sync Context.halfMinute (.ofList [loopback]))
        (Run.service.save (.user .nil) (loopback.withId .nil loopback.tokenProvider) savedLater) :=
  have h : Reached (fun _ => False) (Context.blank .sqlite) saved := .step .start (.serve _ _ _)
  have htwin : saved.IsTwin savedLater := ⟨rfl, rfl, rfl⟩
  have hd : loopback ∈ Config.loopbackSnapshot.definitions := by decide +kernel
  have hagree := h.save_agrees_sync rfl htwin (by decide +kernel) Config.ofText_loopbackText hd
    (by decide) Context.halfMinute Run.service (.user .nil) rfl
  ⟨h, htwin, Config.ofText_loopbackText, hd, by decide +kernel, by decide +kernel, hagree⟩

end Registry

end Fleet
