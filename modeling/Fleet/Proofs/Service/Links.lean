/-
  Fleet/Proofs/Service/Links.lean
  ===============================
  **Links follow the relational model.**

  What the requests about links mean is said by a relation of identities and clusters, without rows,
  transactions and calls (`Ties`).  On a registry where nothing stands in the way (`Registry.IsReady`)
  each of the three units of work that change links comes to what this model says: the same answer,
  and the same relation afterwards (`Service.execute_linkWork`, `Service.execute_unlinkWork`,
  `Service.execute_deleteWork`).  No other work touches a link.

  So by induction over the steps of a run the links are at any time what the model has made of the
  requests until then (`Run.follows`).  As every pair leads to a stored cluster, a cluster that is
  created starts without any.
-/
import Fleet.Proofs.Context.Continuity
import Fleet.Proofs.Context.Undisturbed
import Fleet.Proofs.Service.Identity
import Fleet.Proofs.Store.Links

namespace Fleet

open Fleet.Store Fleet.Work

/-! ### The relational model -/

/-- A relation of identities and the identifiers of clusters. -/
abbrev Ties := Finset (Uuid × Uuid)

namespace Ties

/-- Relates an identity to the cluster at a URL. -/
def link (ties : Ties) (identity : Uuid) (url : String) (cluster? : Option Uuid)
    (ignoreExisting : Bool) : Except Error Unit × Ties :=
  match cluster? with
  | none => (.error (.notFound .cluster url), ties)
  | some cluster =>
    if (identity, cluster) ∈ ties then
      (if ignoreExisting then .ok () else .error (.alreadyExists .link (linkKey identity cluster)),
        ties)
    else (.ok (), insert (identity, cluster) ties)

/-- Takes the pair of an identity and the cluster at a URL away. -/
def unlink (ties : Ties) (identity : Uuid) (url : String) (cluster? : Option Uuid) :
    Except Error Unit × Ties :=
  match cluster?.filter fun cluster => (identity, cluster) ∈ ties with
  | none => (.error (.notFound .link (identity.render ++ " @ " ++ url)), ties)
  | some cluster => (.ok (), ties.erase (identity, cluster))

/-- Takes all pairs of a cluster away, which must be there. -/
def delete (ties : Ties) (cluster : Uuid) (isThere : Bool) : Except Error Unit × Ties :=
  if isThere then (.ok (), ties.filter (·.2 ≠ cluster))
  else (.error (.notFound .cluster cluster.render), ties)

end Ties

/-- What a request that is allowed comes to in the model, with the clusters in these tables.  It
    answers only the requests that are about links. -/
def Request.model (t : Tables) (ties : Ties) : Request α → Option (Except Error α) × Ties
  | .link identity url ignoreExisting =>
    (ties.link identity (withSlash url) (t.clusterAt? (withSlash url)) ignoreExisting).map some id
  | .unlink identity url =>
    (ties.unlink identity (withSlash url) (t.clusterAt? (withSlash url))).map some id
  | .delete cluster => (ties.delete cluster (t.row? cluster.render).isSome).map some id
  | .save _ | .load _ | .find _ | .list _ | .clustersOf _ => (none, ties)

/-! ### The units of work -/

/-- A calm scene whose transaction sees tidy tables. -/
structure Work.Scene.IsReady {σ : Type} (s : Scene σ) : Prop extends s.IsCalm where
  tidy : s.txn.view.IsTidy

namespace Service

variable {σ : Type} {s : Scene σ} {identity cluster id : Uuid} {url : String} {ignoreExisting : Bool}

/-- `linkWork` call by call. -/
theorem linkWork_eq (identity : Uuid) (url : String) (ignoreExisting : Bool) :
    (linkWork identity url ignoreExisting : Work σ Unit) =
      .call (.find url) fun
        | .error e => .fail e
        | .ok none => .fail (.notFound .cluster url)
        | .ok (some c) =>
          .call (.loadLink identity c.id) fun
            | .error e => .fail e
            | .ok (some _) =>
              if ignoreExisting then .done ()
              else .fail (.alreadyExists .link (linkKey identity c.id))
            | .ok none =>
              .call (.link identity c.id) fun
                | .error e => .fail e
                | .ok _ => .done () := by
  refine congrArg (Work.call (.find url)) (funext fun reply => ?_)
  rcases reply with e | (_ | c)
  · rfl
  · rfl
  · refine congrArg (Work.call _) (funext fun reply => ?_)
    rcases reply with e | (_ | l)
    · rfl
    · refine congrArg (Work.call _) (funext fun reply => ?_)
      cases reply <;> rfl
    · cases ignoreExisting <;> rfl

/-- `unlinkWork` call by call. -/
theorem unlinkWork_eq (identity : Uuid) (url : String) :
    (unlinkWork identity url : Work σ Unit) =
      .call (.unlink identity url) fun
        | .error e => .fail e
        | .ok n =>
          if n = 0 then .fail (.notFound .link (identity.render ++ " @ " ++ url)) else .done () := by
  refine congrArg (Work.call _) (funext fun reply => ?_)
  cases reply <;> rfl

/-- `deleteWork` call by call. -/
theorem deleteWork_eq (id : Uuid) :
    (deleteWork id : Work σ Unit) =
      .call (.delete id) fun
        | .error e => .fail e
        | .ok found => if found then .done () else .fail (.notFound .cluster id.render) := by
  refine congrArg (Work.call _) (funext fun reply => ?_)
  rcases reply with e | (_ | _) <;> rfl

/-! ### Linking -/

/-- The look-up of a cluster in a calm scene. -/
theorem call_find (h : s.IsReady) (url : String) :
    (s.txn.view.clusterAt? url = none ∧ s.call (.find url) = (.ok none, Sync.tick s)) ∨
      ∃ r c, s.txn.view.rowAt? url = some r ∧ r.id = c.id.render ∧
        s.txn.view.clusterAt? url = some c.id ∧
        s.call (.find url) = (.ok (some c), Sync.tick s) := by
  rw [Sync.call_find h.isLive]
  cases hrow : s.txn.view.rowAt? url with
  | none => exact .inl ⟨Tables.clusterAt?_of_none hrow, rfl⟩
  | some r =>
    obtain ⟨c, hdecode, hid⟩ := h.tidy.exists_cluster (Tables.rowAt?_eq_some hrow).1
    refine .inr ⟨r, c, rfl, hid.symm, Tables.clusterAt?_of_rowAt? hrow hid.symm, ?_⟩
    rw [Call.decode?, hdecode]
    rfl

theorem call_loadLink (h : s.IsCalm) (identity cluster : Uuid) :
    s.call (.loadLink identity cluster) =
      (.ok (s.txn.view.link? identity cluster), Sync.tick s) := by
  rw [h.call_of_reads rfl]
  rfl

theorem run_linkWork_absent (h : s.IsReady) (hnone : s.txn.view.clusterAt? url = none) :
    Ends s.txn.view (.error (.notFound .cluster url))
      ((linkWork identity url ignoreExisting).run s) := by
  rcases call_find h url with ⟨-, hfind⟩ | ⟨r, c, -, -, hsome, -⟩
  · rw [linkWork_eq, run, hfind]
    exact .failed h.cancelled
  · rw [hnone] at hsome
    cases hsome

theorem run_linkWork_linked (h : s.IsReady) (hsome : s.txn.view.clusterAt? url = some cluster)
    (hpair : (identity, cluster) ∈ s.txn.view.pairs) :
    Ends s.txn.view
      (if ignoreExisting then .ok () else .error (.alreadyExists .link (linkKey identity cluster)))
      ((linkWork identity url ignoreExisting).run s) := by
  rcases call_find h url with ⟨hnone, -⟩ | ⟨r, c, -, -, hsome', hfind⟩
  · rw [hnone] at hsome
    cases hsome
  · obtain rfl : c.id = cluster := Option.some.inj (hsome'.symm.trans hsome)
    obtain ⟨l, hl⟩ := Option.isSome_iff_exists.1 (Tables.isSome_link?.2 hpair)
    have hload : (Sync.tick s).call (.loadLink identity c.id) =
        (.ok (some l), Sync.tick (Sync.tick s)) := hl ▸ call_loadLink h.tick identity c.id
    rw [linkWork_eq, run, hfind]
    simp only [run, hload]
    cases ignoreExisting with
    | true => exact .done h.isLive h.doomed rfl
    | false => exact .failed h.cancelled

/-- The link is made by the third call. -/
theorem run_linkWork_new (h : s.IsReady) (hsome : s.txn.view.clusterAt? url = some cluster)
    (hpair : (identity, cluster) ∉ s.txn.view.pairs) (ignoreExisting : Bool) :
    (linkWork identity url ignoreExisting).run s =
        (.done (), (Sync.tick (Sync.tick s)).afterCall (.link identity cluster)) ∧
      Ends (s.txn.view.tie ⟨identity, cluster, (Sync.tick (Sync.tick s)).time⟩) (.ok ())
        ((linkWork identity url ignoreExisting).run s) := by
  rcases call_find h url with ⟨hnone, -⟩ | ⟨r, c, hrow, hid, hsome', hfind⟩
  · rw [hnone] at hsome
    cases hsome
  · obtain rfl : c.id = cluster := Option.some.inj (hsome'.symm.trans hsome)
    have hload : (Sync.tick s).call (.loadLink identity c.id) =
        (.ok none, Sync.tick (Sync.tick s)) :=
      Tables.link?_eq_none_iff.2 hpair ▸ call_loadLink h.tick identity c.id
    have hfound : s.txn.view.row? c.id.render = some r :=
      hid ▸ h.tidy.intact.keyed.row?_of_mem (Tables.rowAt?_eq_some hrow).1
    have hcalm : (Sync.tick (Sync.tick s)).IsCalm := h.tick.tick
    have hreply : ((Sync.tick (Sync.tick s)).attempt (.link identity c.id)).reply =
        .ok ⟨identity, c.id, (Sync.tick (Sync.tick s)).time⟩ := by
      rw [Scene.attempt, hcalm.traps]
      exact Call.link_reply_eq h.writable hfound hpair
    have hrun : (linkWork identity url ignoreExisting).run s =
        (.done (), (Sync.tick (Sync.tick s)).afterCall (.link identity c.id)) := by
      simp only [linkWork_eq, run, hfind, hload, hcalm.call, hreply]
    refine ⟨hrun, ?_⟩
    rw [hrun]
    have hafter := hcalm.afterCall hreply
    exact .done hafter.isLive hafter.doomed (Scene.view_afterCall hreply)

/-! ### Unlinking and deleting -/

theorem run_unlinkWork_absent (h : s.IsReady)
    (hnone : ∀ c, s.txn.view.clusterAt? url = some c → (identity, c) ∉ s.txn.view.pairs) :
    Ends s.txn.view (.error (.notFound .link (identity.render ++ " @ " ++ url)))
      ((unlinkWork identity url).run s) := by
  have hreply : (s.attempt (.unlink identity url)).reply = .ok 0 := by
    rw [Scene.attempt, h.traps, Call.unlink_reply_eq h.writable h.tidy]
    cases hc : s.txn.view.clusterAt? url with
    | none => rfl
    | some c => exact congrArg _ (if_neg (hnone c hc))
  rw [unlinkWork_eq]
  exact h.ends_of_call_failed _ hreply (if_pos rfl)

theorem run_unlinkWork_linked (h : s.IsReady) (hsome : s.txn.view.clusterAt? url = some cluster)
    (hpair : (identity, cluster) ∈ s.txn.view.pairs) :
    ∃ r, r.id = cluster.render ∧
      Ends (s.txn.view.untie identity r) (.ok ()) ((unlinkWork identity url).run s) := by
  have hreply : (s.attempt (.unlink identity url)).reply = .ok 1 := by
    rw [Scene.attempt, h.traps, Call.unlink_reply_eq h.writable h.tidy, hsome]
    exact congrArg _ (if_pos hpair)
  rcases call_find h url with ⟨hnone, -⟩ | ⟨r, c, hrow, hid, hsome', -⟩
  · rw [hnone] at hsome
    cases hsome
  · obtain rfl : c.id = cluster := Option.some.inj (hsome'.symm.trans hsome)
    have heffect : (Call.unlink identity url).effect s.time s.txn.view =
        s.txn.view.untie identity r := by
      rw [Call.effect, hrow]
    refine ⟨r, hid, ?_⟩
    rw [unlinkWork_eq, ← heffect]
    exact h.ends_of_call hreply rfl

theorem run_deleteWork_absent (h : s.IsReady) (hnone : s.txn.view.row? id.render = none) :
    Ends s.txn.view (.error (.notFound .cluster id.render)) ((deleteWork id).run s) := by
  have hreply : (s.attempt (.delete id)).reply = .ok false := by
    rw [Scene.attempt, h.traps, Call.delete_reply_eq h.writable, hnone]
    rfl
  rw [deleteWork_eq]
  exact h.ends_of_call_failed _ hreply rfl

theorem run_deleteWork_found (h : s.IsReady) {r : Row} (hrow : s.txn.view.row? id.render = some r) :
    Ends (s.txn.view.drop r) (.ok ()) ((deleteWork id).run s) := by
  have hreply : (s.attempt (.delete id)).reply = .ok true := by
    rw [Scene.attempt, h.traps, Call.delete_reply_eq h.writable, hrow]
    rfl
  have heffect : (Call.delete id).effect s.time s.txn.view = s.txn.view.drop r := by
    rw [Call.effect, hrow]
  rw [deleteWork_eq, ← heffect]
  exact h.ends_of_call hreply rfl

end Service

/-! ### In a transaction of its own -/

/-- A registry with tidy tables, in which nothing stands in the way of a request. -/
structure Registry.IsReady (r : Registry) : Prop extends r.IsCalm where
  tidy : r.database.tables.IsTidy

theorem Registry.IsReady.exists_start {r : Registry} (h : r.IsReady) (terms : Terms) :
    ∃ s : Scene Unit, Context.start? terms r () = some s ∧ s.IsReady := by
  obtain ⟨s, hs, hcalm⟩ := h.toIsCalm.exists_start terms
  exact ⟨s, hs, hcalm, (Context.starts hs).view.symm ▸ h.tidy⟩

/-- The links of a registry. -/
def Registry.ties (r : Registry) : Ties := r.database.tables.pairs

theorem Registry.ties_of_links {r r' : Registry}
    (h : r'.database.tables.links = r.database.tables.links) : r'.ties = r.ties := by
  rw [ties, ties, Tables.pairs, h]
  rfl

namespace Service

variable {r : Registry} {terms : Terms} {identity id : Uuid} {url : String} {ignoreExisting : Bool}

theorem execute_of_ends {w : Work Unit Unit} {s : Scene Unit} {view : Tables}
    {answer : Except Error Unit} {x : Except Error Unit × Ties}
    (hs : Context.start? terms r () = some s) (hend : Ends view answer (w.run s))
    (hx : x = (answer, if answer.isOk then view.pairs else r.ties)) :
    ((r.execute terms w).1, (r.execute terms w).2.ties) = x := by
  obtain ⟨hanswer, htables⟩ := Registry.execute_of_ends hs hend
  rw [hanswer, Registry.ties, htables, hx]
  cases answer <;> rfl

/-- **Linking does what the model says.** -/
theorem execute_linkWork (h : r.IsReady) (terms : Terms) :
    ((r.execute terms (linkWork identity url ignoreExisting)).1,
        (r.execute terms (linkWork identity url ignoreExisting)).2.ties) =
      r.ties.link identity url (r.database.tables.clusterAt? url) ignoreExisting := by
  obtain ⟨s, hs, hcalm⟩ := h.exists_start terms
  have hview := (Context.starts hs).view
  cases hc : r.database.tables.clusterAt? url with
  | none =>
    refine execute_of_ends hs (run_linkWork_absent hcalm (hview ▸ hc)) ?_
    rfl
  | some cluster =>
    simp only [Ties.link]
    by_cases hpair : (identity, cluster) ∈ r.ties
    · rw [if_pos hpair]
      refine execute_of_ends hs (run_linkWork_linked hcalm (hview ▸ hc) (hview ▸ hpair)) ?_
      cases ignoreExisting <;> simp [hview, Registry.ties, Except.isOk, Except.toBool]
    · rw [if_neg hpair]
      refine execute_of_ends hs (run_linkWork_new hcalm (hview ▸ hc) (hview ▸ hpair) _).2 ?_
      rw [hview, Tables.pairs_tie]
      rfl

/-- **Unlinking does what the model says.** -/
theorem execute_unlinkWork (h : r.IsReady) (terms : Terms) :
    ((r.execute terms (unlinkWork identity url)).1,
        (r.execute terms (unlinkWork identity url)).2.ties) =
      r.ties.unlink identity url (r.database.tables.clusterAt? url) := by
  obtain ⟨s, hs, hcalm⟩ := h.exists_start terms
  have hview := (Context.starts hs).view
  rw [Ties.unlink]
  cases hc : (r.database.tables.clusterAt? url).filter fun c => (identity, c) ∈ r.ties with
  | none =>
    refine execute_of_ends hs (run_unlinkWork_absent hcalm ?_) rfl
    intro c hsome
    rw [hview] at hsome ⊢
    have hfree : (identity, c) ∉ r.ties := by
      simpa using Option.filter_eq_none_iff.1 hc c hsome
    exact hfree
  | some cluster =>
    obtain ⟨hsome, hpair⟩ := Option.filter_eq_some_iff.1 hc
    have hpair : (identity, cluster) ∈ s.txn.view.pairs := hview ▸ of_decide_eq_true hpair
    obtain ⟨row, hid, hend⟩ := run_unlinkWork_linked hcalm (hview ▸ hsome) hpair
    refine execute_of_ends hs hend ?_
    rw [hview, Tables.pairs_untie hid]
    rfl

/-- **Deleting does what the model says.** -/
theorem execute_deleteWork (h : r.IsReady) (terms : Terms) :
    ((r.execute terms (deleteWork id)).1, (r.execute terms (deleteWork id)).2.ties) =
      r.ties.delete id (r.database.tables.row? id.render).isSome := by
  obtain ⟨s, hs, hcalm⟩ := h.exists_start terms
  have hview := (Context.starts hs).view
  cases hrow : r.database.tables.row? id.render with
  | none => exact execute_of_ends hs (run_deleteWork_absent hcalm (hview ▸ hrow)) rfl
  | some row =>
    refine execute_of_ends hs (run_deleteWork_found hcalm (hview ▸ hrow)) ?_
    rw [hview, Tables.pairs_drop (Tables.row?_eq_some hrow).2]
    rfl

theorem execute_saveWork (h : r.IsReady) (c : Cluster) :
    (r.execute terms (saveWork c)).2.database.tables.links = r.database.tables.links := by
  rw [saveWork_eq]
  cases Placement.settles_work h.tidy.intact.keyed h.tidy.sound with
  | error _ hrun htables => rw [hrun, htables]
  | ok _ hrun hplaced =>
    rw [hrun]
    cases hplaced with
    | renewed _ _ _ _ htables => rw [htables]; rfl
    | made _ _ _ htables => rw [htables]; rfl

end Service

theorem Registry.links_sync {r : Registry} (h : r.IsReady) (terms : Terms) (s : Snapshot) :
    (r.sync terms s).2.database.tables.links = r.database.tables.links := by
  cases hanswer : (r.sync terms s).1 with
  | error e =>
    obtain ⟨htables, -⟩ := Sync.failure_of_error (.refl _) (Prod.ext hanswer rfl)
    exact congrArg Tables.links htables
  | ok rep => exact (Sync.synced_of_ok h.tidy.intact.keyed (.refl _) (Prod.ext hanswer rfl)).1.links

/-! ### One step -/

namespace Deed

/-- What a deed makes of the relation, with the clusters in these tables. -/
def model (t : Tables) (ties : Ties) : Deed → Ties
  | .serve s who q => if s.policy.allows who then (q.model t ties).2 else ties
  | .sync _ _ | .fail _ _ | .trap _ => ties

/-- A deed that sets no trap. -/
def IsFair : Deed → Prop
  | .trap _ => False
  | .serve _ _ _ | .sync _ _ | .fail _ _ => True

variable {files : String → Prop} {r : Registry} {d : Deed}

theorem continues (hd : d.IsFair) : r.Continues (d.apply r) := by
  cases d with
  | serve s who q =>
    change r.Continues (s.serve who q r).2
    rcases s.serve_cases who q r with h | ⟨w, -, h⟩ | ⟨β, c, -, h⟩
    · rw [h]
      exact .refl r
    · rw [h]
      exact r.continues_execute s.terms w
    · rw [h]
      exact r.continues_call c
  | sync terms s => exact r.continues_execute terms (Sync.work s)
  | fail terms w => exact r.continues_execute terms w
  | trap t => cases hd

theorem isReady (hfits : d.Fits files r) (hfair : d.IsFair) (h : r.IsReady) :
    (d.apply r).IsReady where
  toIsCalm := h.toIsCalm.continues (continues hfair)
  tidy := (step hfits).keep (fun c _ _ _ _ ht => Call.isTidy_perform c ht) h.tidy

end Deed

namespace Service

variable {α : Type} {s : Service} {who : Caller} {r : Registry}

/-- A change that is allowed is the execution of its work. -/
theorem serve_of_allowed (hallowed : s.policy.allows who = true) {q : Request α} {w : Work Unit α}
    (hw : q.work? = some (.ok w)) : s.serve who q r = r.execute s.terms w := by
  obtain ⟨what, hserve⟩ := serve_of_change hw s who
  simp [hserve, change, Policy.authorize, hallowed]

theorem serve_of_not_allowed (hnot : s.policy.allows who = false) {q : Request α}
    {w : Except Error (Work Unit α)} (hw : q.work? = some w) : (s.serve who q r).2 = r := by
  obtain ⟨what, hserve⟩ := serve_of_change hw s who
  simp [hserve, change, Policy.authorize, hnot]

theorem ties_of_look {q : Request α} (hq : q.work? = none) : (s.serve who q r).2.ties = r.ties := by
  obtain ⟨β, c, hc, hcall⟩ := serve_of_look hq s who r
  rw [hcall]
  exact congrArg Tables.pairs (Registry.tables_call hc)

/-- **A request does what the model says.** -/
theorem serve_model (h : r.IsReady) (hallowed : s.policy.allows who = true) (q : Request α) :
    (∀ a, (q.model r.database.tables r.ties).1 = some a → (s.serve who q r).1 = a) ∧
      (s.serve who q r).2.ties = (q.model r.database.tables r.ties).2 := by
  cases q with
  | link identity url ignoreExisting =>
    rw [serve_of_allowed hallowed rfl]
    simp only [Request.model, ← execute_linkWork h s.terms, Prod.map, Option.some.injEq]
    exact ⟨fun a ha => ha, rfl⟩
  | unlink identity url =>
    rw [serve_of_allowed hallowed rfl]
    simp only [Request.model, ← execute_unlinkWork h s.terms, Prod.map, Option.some.injEq]
    exact ⟨fun a ha => ha, rfl⟩
  | delete id =>
    rw [serve_of_allowed hallowed rfl]
    simp only [Request.model, ← execute_deleteWork h s.terms, Prod.map, Option.some.injEq]
    exact ⟨fun a ha => ha, rfl⟩
  | save c =>
    constructor
    · intro a ha
      cases ha
    · apply Registry.ties_of_links
      cases hn : c.normalize with
      | error e =>
        simp [serve, save, change, Policy.authorize, hallowed, hn, Except.map]
      | ok n =>
        have hw : (Request.save c).work? = some (.ok (saveWork n)) := by
          simp [Request.work?, hn, Except.map]
        rw [serve_of_allowed hallowed hw]
        exact execute_saveWork h n
  | load _ | find _ | list _ | clustersOf _ =>
    constructor
    · intro a ha
      cases ha
    · exact ties_of_look rfl

end Service

/-- **A step does to the links what the model says.** -/
theorem Deed.ties_apply {files : String → Prop} {r : Registry} {d : Deed} (hfits : d.Fits files r)
    (hfair : d.IsFair) (h : r.IsReady) :
    (d.apply r).ties = d.model r.database.tables r.ties := by
  cases d with
  | serve s who q =>
    change (s.serve who q r).2.ties = _
    cases hallowed : s.policy.allows who with
    | true =>
      rw [(Service.serve_model h hallowed q).2, model, if_pos hallowed]
    | false =>
      rw [model, if_neg (by simp [hallowed])]
      cases hq : q.work? with
      | none => exact Service.ties_of_look hq
      | some w => rw [Service.serve_of_not_allowed hallowed hq]
  | sync terms s =>
    exact Registry.ties_of_links (Registry.links_sync h terms s)
  | fail terms w => exact congrArg Tables.pairs (Registry.tables_of_error hfits)
  | trap t => cases hfair

/-- A step relates nothing to a cluster that is not at any URL before it. -/
theorem Deed.mem_or_of_mem_model {t : Tables} {ties : Ties} {d : Deed} {p : Uuid × Uuid}
    (h : p ∈ d.model t ties) : p ∈ ties ∨ ∃ url, t.clusterAt? url = some p.2 := by
  cases d with
  | serve s who q =>
    rw [model] at h
    split at h
    · cases q with
      | link identity url ignoreExisting =>
        simp only [Request.model, Ties.link] at h
        cases hc : t.clusterAt? (withSlash url) with
        | none =>
          rw [hc] at h
          exact .inl h
        | some cluster =>
          rw [hc] at h
          dsimp only at h
          split at h
          · exact .inl h
          · rcases Finset.mem_insert.1 h with rfl | h
            · exact .inr ⟨withSlash url, hc⟩
            · exact .inl h
      | unlink identity url =>
        simp only [Request.model, Ties.unlink] at h
        split at h
        · exact .inl h
        · exact .inl (Finset.mem_of_mem_erase h)
      | delete id =>
        simp only [Request.model, Ties.delete] at h
        split at h
        · exact .inl (Finset.mem_filter.1 h).1
        · exact .inl h
      | save _ | load _ | find _ | list _ | clustersOf _ => exact .inl h
    · exact .inl h
  | sync _ _ | fail _ _ | trap _ => exact .inl h

theorem Store.Tables.IsTidy.row?_of_clusterAt? {t : Tables} (h : t.IsTidy) {url : String}
    {cluster : Uuid} (hc : t.clusterAt? url = some cluster) : ∃ r, t.row? cluster.render = some r := by
  obtain ⟨r, hrow, hparse⟩ := Option.bind_eq_some_iff.1 hc
  have hr := (Tables.rowAt?_eq_some hrow).1
  obtain ⟨id, -, hid, -⟩ := h.sound r hr
  rw [hid, Uuid.parse_render] at hparse
  cases hparse
  exact ⟨r, hid ▸ h.intact.keyed.row?_of_mem hr⟩

/-! ### All steps -/

/-- The relation that the model has after a run, from the empty one on. -/
def Ties.replay (ms : List Moment) : Ties :=
  ms.foldl (fun ties m => m.deed.model m.before.database.tables ties) ∅

namespace Moment

/-- At this step the registry does what the model does, which had this relation before. -/
structure Follows (m : Moment) (ties : Ties) : Prop where
  before : m.before.ties = ties
  after : m.after.ties = m.deed.model m.before.database.tables ties
  /-- Requests that are allowed are answered as by the model. -/
  answers : ∀ {α : Type} (s : Service) (who : Caller) (q : Request α), m.deed = .serve s who q →
    s.policy.allows who = true → ∀ a, (q.model m.before.database.tables ties).1 = some a →
      (s.serve who q m.before).1 = a
  /-- No pair is stored twice. -/
  once : (m.after.database.tables.links.map Link.pair).Nodup
  /-- The clusters of an identity are those that are related to it. -/
  lists : ∀ identity, ∃ cs, (Service.clustersOf identity m.after).1 = .ok cs ∧
    cs.Pairwise (fun a b => a.url < b.url) ∧
      ∀ c, c ∈ cs ↔ m.after.database.tables.Stores c ∧ (identity, c.id) ∈ m.after.ties
  /-- A cluster that was not there before starts without links. -/
  fresh : ∀ c, m.after.database.tables.Stores c →
    m.before.database.tables.row? c.id.render = none → ∀ identity, (identity, c.id) ∉ m.after.ties

end Moment

namespace Run

variable {files : String → Prop} {r : Registry} {ms : List Moment}

/-- At every step of a run the registry is ready, and the links are those that the model has made of
    the first ones. -/
theorem ready_at (h : Run files r ms) (hr : r.IsReady) (hfair : ∀ m ∈ ms, m.deed.IsFair)
    {pre post : List Moment} {m : Moment} (hms : ms = pre ++ m :: post) :
    m.before.IsReady ∧ m.deed.Fits files m.before ∧
      m.before.ties =
        pre.foldl (fun ties m => m.deed.model m.before.database.tables ties) r.ties := by
  induction h generalizing pre with
  | nil r => simp at hms
  | @cons r d ms hd hrest ih =>
    obtain ⟨hdfair, hfair⟩ := List.forall_mem_cons.1 hfair
    cases pre with
    | nil =>
      obtain ⟨rfl, rfl⟩ := List.cons.inj hms
      exact ⟨hr, hd, rfl⟩
    | cons m' pre =>
      obtain ⟨rfl, hrest⟩ := List.cons.inj hms
      have hnext := ih (Deed.isReady hd hdfair hr) hfair hrest
      rw [Deed.ties_apply hd hdfair hr] at hnext
      exact hnext

/-- **Links follow the relational model.** -/
theorem follows {b : Backend} (h : Run files r ms) (hr : r.database = .create b)
    (hb : b.writable = true) (hfair : ∀ m ∈ ms, m.deed.IsFair) {pre post : List Moment} {m : Moment}
    (hms : ms = pre ++ m :: post) : m.Follows (Ties.replay pre) := by
  have hempty : r.IsReady := by
    refine ⟨Registry.isCalm_create hr hb, ?_⟩
    rw [hr]
    exact Tables.isTidy_empty
  have hnone : r.ties = ∅ := by
    rw [Registry.ties, hr]
    rfl
  obtain ⟨hcalm, hfits, hties⟩ := h.ready_at hempty hfair hms
  rw [hnone] at hties
  have hties : m.before.ties = Ties.replay pre := hties
  have hmfair : m.deed.IsFair := hfair m (hms ▸ List.mem_append_right _ List.mem_cons_self)
  have hafter : m.after.ties = m.deed.model m.before.database.tables m.before.ties :=
    Deed.ties_apply hfits hmfair hcalm
  have htidy : m.after.database.tables.IsTidy := (Deed.isReady hfits hmfair hcalm).tidy
  refine {
    before := hties
    after := hties ▸ hafter
    answers := ?_
    once := htidy.intact.links
    lists := ?_
    fresh := ?_ }
  · intro α s who q hdeed hallowed a ha
    exact (Service.serve_model hcalm hallowed q).1 a (hties ▸ ha)
  · intro identity
    obtain ⟨cs, hcs, hascending, hmem⟩ := htidy.exists_clustersOf identity
    exact ⟨cs, (Call.clustersOf_reply _ _ _ _).trans hcs, hascending, hmem⟩
  · intro c hc hnew identity hpair
    rw [hafter] at hpair
    rcases Deed.mem_or_of_mem_model hpair with hold | ⟨url, hat⟩
    · obtain ⟨row, hrow⟩ := hcalm.tidy.exists_row hold
      rw [hnew] at hrow
      cases hrow
    · obtain ⟨row, hrow⟩ := hcalm.tidy.row?_of_clusterAt? hat
      rw [hnew] at hrow
      cases hrow

/-! ### A cluster that is linked, deleted and created again -/

def linkedMoment : Moment :=
  ⟨blankMoment.after, .serve service (.user .nil) (.link ⟨7⟩ "http://[::1]" false)⟩

def unlinkedMoment : Moment := ⟨linkedMoment.after, .serve service (.user .nil) (.delete ⟨1⟩)⟩

def recreatedMoment : Moment := ⟨unlinkedMoment.after, .serve service (.user .nil) (.save loopback)⟩

theorem recreated_follows :
    Run (fun _ => False) (Context.blank .sqlite)
        [blankMoment, linkedMoment, unlinkedMoment, recreatedMoment] ∧
      (Context.blank .sqlite).database = .create .sqlite ∧ Backend.sqlite.writable = true ∧
      (∀ m ∈ [blankMoment, linkedMoment, unlinkedMoment, recreatedMoment], m.deed.IsFair) ∧
      [blankMoment, linkedMoment, unlinkedMoment, recreatedMoment].map (·.after.ties) =
        [∅, {(⟨7⟩, ⟨1⟩)}, ∅, ∅] ∧
      recreatedMoment.Follows (Ties.replay [blankMoment, linkedMoment, unlinkedMoment]) :=
  have h : Run (fun _ => False) (Context.blank .sqlite)
      [blankMoment, linkedMoment, unlinkedMoment, recreatedMoment] :=
    .cons trivial (.cons trivial (.cons trivial (.cons trivial (.nil _))))
  have hfair : ∀ m ∈ [blankMoment, linkedMoment, unlinkedMoment, recreatedMoment], m.deed.IsFair := by
    simp only [List.forall_mem_cons]
    exact ⟨trivial, trivial, trivial, trivial, List.forall_mem_nil _⟩
  have hlast : [blankMoment, linkedMoment, unlinkedMoment, recreatedMoment] =
      [blankMoment, linkedMoment, unlinkedMoment] ++ recreatedMoment :: [] := rfl
  have hties : [blankMoment, linkedMoment, unlinkedMoment, recreatedMoment].map (·.after.ties) =
      [∅, {(⟨7⟩, ⟨1⟩)}, ∅, ∅] := by decide +kernel
  have hfollows := h.follows rfl rfl hfair hlast
  ⟨h, rfl, rfl, hfair, hties, hfollows⟩

end Run

end Fleet
