/-
  Fleet/Proofs/Service/Backends.lean
  ==================================
  **The backends agree.**

  A registry is used by calls, requests and syncs (`Operation`).  On an empty registry they can be
  answered by either backend, and but for the times in the answers nobody can tell by which one
  (`Registry.performAll_backends`).
  After every operation both registries are twins: they have the same tables, but for times.

  The backends differ once a statement has failed in a transaction.  That does not show, as the
  work of requests and syncs gives up then (`Request.straight`, `Sync.straight_writeAll`).  They also
  differ in the time of a call in a transaction.  That does not show in the order of the links, as
  there is no work that makes two links in one transaction (`Registry.IsSequential`).
-/
import Fleet.Proofs.Context.Twins
import Fleet.Proofs.Service.Links

namespace Fleet

open Fleet.Store Fleet.Work

/-! ### What requests and syncs do is straight work -/

section

variable {σ α : Type}

theorem Placement.straight_write {call : Call Registered} (hcall : call.asksOrder = false)
    (htimeless : call.timeless = Registered.timeless) {f : Registered → α}
    (hf : ∀ a a', a.timeless = a'.timeless → f a = f a') : (write call f : Work σ α).Straight := by
  apply straight_call hcall
  · exact fun _ => rfl
  · exact fun _ => trivial
  · intro a a' ha
    rw [htimeless] at ha
    exact congrArg Work.done (hf a a' ha)

/-- A placement whose result has no times in it. -/
theorem Placement.straight_work (p : Placement) {result : Bool → Registered → α}
    (hresult : ∀ isNew a a', a.timeless = a'.timeless → result isNew a = result isNew a') :
    (p.work result : Work σ α).Straight := by
  apply straight_call rfl
  · intro e
    rfl
  · rintro (_ | old)
    · change (p.withNewId _).Straight
      unfold withNewId
      cases p.given with
      | some id => exact straight_write rfl rfl (hresult true)
      | none =>
        intro id
        exact straight_write rfl rfl (hresult true)
    · exact straight_write rfl rfl (hresult false)
  -- what was found counts for its identifier and its token provider
  · rintro (_ | old) (_ | old') hold
    · rfl
    · cases hold
    · cases hold
    · have hsame : old.toCluster = old'.toCluster := Registered.toCluster_eq (Option.some.inj hold)
      change write (.save (p.renew old.toCluster)) _ = write (.save (p.renew old'.toCluster)) _
      rw [hsame]

theorem Placement.map_work {β : Type} (p : Placement) (result : Bool → Registered → α) (f : α → β) :
    (f <$> p.work result : Work σ β) = p.work fun isNew written => f (result isNew written) := by
  have hwrite (call : Call Registered) (g : Registered → α) :
      (f <$> write call g : Work σ β) = write call fun written => f (g written) := by
    refine congrArg (Work.call call) (funext fun reply => ?_)
    cases reply <;> rfl
  refine congrArg (Work.call (.find p.definition.url)) (funext fun reply => ?_)
  rcases reply with e | (_ | old)
  · rfl
  · change f <$> p.withNewId _ = p.withNewId _
    unfold withNewId
    cases p.given with
    | some id => exact hwrite _ _
    | none => exact congrArg Work.draw (funext fun id => hwrite _ _)
  · exact hwrite _ _

theorem Service.straight_linkWork (identity : Uuid) (url : String) (ignoreExisting : Bool) :
    (linkWork identity url ignoreExisting : Work σ Unit).Straight := by
  rw [linkWork_eq]
  apply straight_call rfl
  · intro e
    rfl
  · rintro (_ | c)
    · trivial
    · refine ⟨rfl, fun e => ⟨e, rfl⟩, ?_, ?_⟩
      · rintro (_ | l)
        · exact ⟨rfl, fun e => ⟨e, rfl⟩, fun _ => trivial, fun _ _ _ => rfl⟩
        · dsimp only
          split <;> trivial
      -- all that counts is whether there is a link
      · rintro (_ | l) (_ | l') hl
        · rfl
        · cases hl
        · cases hl
        · rfl
  -- a cluster that was found counts for its identifier
  · rintro (_ | c) (_ | c') hc
    · rfl
    · cases hc
    · cases hc
    · have hid : c.id = c'.id :=
        congrArg Cluster.id (Registered.toCluster_eq (Option.some.inj hc))
      simp only [hid]

theorem Service.straight_unlinkWork (identity : Uuid) (url : String) :
    (unlinkWork identity url : Work σ Unit).Straight := by
  rw [unlinkWork_eq]
  apply straight_call rfl
  · intro e
    rfl
  · intro n
    dsimp only
    split <;> trivial
  · rintro n _ rfl
    rfl

theorem Service.straight_deleteWork (id : Uuid) : (deleteWork id : Work σ Unit).Straight := by
  rw [deleteWork_eq]
  apply straight_call rfl
  · intro e
    rfl
  · rintro (_ | _) <;> trivial
  · rintro found _ rfl
    rfl

theorem Request.exists_normalize {c : Cluster} {w : Work Unit Registered}
    (hw : (Request.save c).work? = some (.ok w)) :
    ∃ n, c.normalize = .ok n ∧ w = Service.saveWork n := by
  simp only [work?, Option.some.injEq] at hw
  cases hn : c.normalize with
  | error e =>
    rw [hn] at hw
    cases hw
  | ok n =>
    rw [hn] at hw
    cases hw
    exact ⟨n, rfl, rfl⟩

/-- An answer to a request without the times in it. -/
def Request.timeless : Request α → α → α
  | .save _ | .load _ | .find _ => Registered.timeless
  | .list _ | .clustersOf _ => List.map Registered.timeless
  | .delete _ | .link _ _ _ | .unlink _ _ => id

/-- What a request does is straight, but for the times in its answer. -/
theorem Request.straight {q : Request α} {w : Work Unit α} (hw : q.work? = some (.ok w)) :
    (q.timeless <$> w).Straight := by
  cases q with
  | save c =>
    obtain ⟨n, -, rfl⟩ := exists_normalize hw
    rw [Service.saveWork_eq, timeless, Placement.map_work]
    exact Placement.straight_work _ fun _ _ _ h => h
  | delete id =>
    cases hw
    exact (Service.straight_deleteWork id).bind fun _ => trivial
  | link identity url ignoreExisting =>
    cases hw
    exact (Service.straight_linkWork _ _ _).bind fun _ => trivial
  | unlink identity url =>
    cases hw
    exact (Service.straight_unlinkWork _ _).bind fun _ => trivial
  | load _ | find _ | list _ | clustersOf _ => cases hw

theorem Sync.straight_writeAll (report : SyncReport) (ds : List Definition) :
    (writeAll report ds : Work σ SyncReport).Straight := by
  induction ds generalizing report with
  | nil => trivial
  | cons d ds ih =>
    have hupsert : (upsert d : Work σ Bool).Straight := by
      rw [upsert_eq_work]
      exact Placement.straight_work _ fun _ _ _ _ => rfl
    refine (hupsert.within (describe d)).bind fun created => ?_
    cases created
    · exact ih _
    · exact ih _

end

/-! ### Sequential registries -/

/-- A ready registry whose links have been made one after another. -/
structure Registry.IsSequential (r : Registry) : Prop extends r.IsReady where
  dated : r.database.tables.IsDated r.database.clock

namespace Registry.IsSequential

variable {α : Type} {r : Registry} {terms : Terms}

theorem create {b : Backend} (hr : r.database = .create b) (hb : b.writable = true) :
    r.IsSequential where
  toIsCalm := isCalm_create hr hb
  tidy := by
    rw [hr]
    exact Tables.isTidy_empty
  dated := by
    rw [hr]
    exact Tables.isDated_empty _

/-- Any call in a transaction of its own is made later than all before it. -/
theorem call (h : r.IsSequential) (c : Call α) : (r.call c).2.IsSequential where
  toIsCalm := h.toIsCalm.continues (r.continues_call c)
  tidy := tables_call_keep (fun c _ _ _ _ ht => Call.isTidy_perform c ht) c h.tidy
  dated := by
    have hlater : r.database.clock < r.database.clock + 1 := Nat.lt_succ_self _
    have hsame : r.database.tables.IsDated (r.database.clock + 1) :=
      h.dated.of_sublist (List.Sublist.refl _) hlater.le
    simp only [Registry.call, Database.call]
    split
    · exact hsame
    · cases hreply : (c.perform r.database.backend r.database.traps (r.database.clock + 1)
          r.database.tables).reply with
      | ok a =>
        rw [Call.perform_tables_of_ok hreply]
        exact Call.isDated_effect c h.dated hlater
      | error e =>
        rw [Call.perform_tables_of_error hreply]
        exact hsame

/-- Work after which the links are dated. -/
theorem execute (h : r.IsSequential) {w : Work Unit α}
    (hdated : (r.execute terms w).2.database.tables.IsDated (r.execute terms w).2.database.clock) :
    (r.execute terms w).2.IsSequential where
  toIsCalm := h.toIsCalm.continues (r.continues_execute terms w)
  tidy := Context.tables_keep (fun c _ _ _ _ ht => Call.isTidy_perform c ht) h.tidy
  dated := hdated

theorem execute_of_links (h : r.IsSequential) {w : Work Unit α}
    (hlinks : (r.execute terms w).2.database.tables.links.Sublist r.database.tables.links) :
    (r.execute terms w).2.IsSequential :=
  h.execute (h.dated.of_sublist hlinks (r.continues_execute terms w).clock)

theorem execute_of_makes (h : r.IsSequential) {w : Work Unit α}
    (hw : w.Makes fun c => c.makesLink = false) : (r.execute terms w).2.IsSequential := by
  refine h.execute_of_links ?_
  refine Context.execute_keeps (P := fun t => t.links.Sublist r.database.tables.links) ?_ hw
    (List.Sublist.refl _)
  intro β c now t hc ht
  exact (Call.links_effect hc now t).trans ht

/-- The link that is made is dated between the beginning and the end of the transaction. -/
theorem linkWork (h : r.IsSequential) (identity : Uuid) (url : String) (ignoreExisting : Bool) :
    (r.execute terms (Service.linkWork identity url ignoreExisting)).2.IsSequential := by
  obtain ⟨s, hs, hready⟩ := h.toIsReady.exists_start terms
  have hview := (Context.starts hs).view
  have hsame {answer : Except Error Unit}
      (hend : Ends s.txn.view answer ((Service.linkWork identity url ignoreExisting).run s)) :
      (r.execute terms (Service.linkWork identity url ignoreExisting)).2.database.tables =
        r.database.tables := by
    rw [(Registry.execute_of_ends hs hend).2, hview, ite_self]
  cases hc : s.txn.view.clusterAt? url with
  | none =>
    apply h.execute_of_links
    rw [hsame (Service.run_linkWork_absent hready hc)]
  | some cluster =>
    by_cases hpair : (identity, cluster) ∈ s.txn.view.pairs
    · apply h.execute_of_links
      rw [hsame (Service.run_linkWork_linked hready hc hpair)]
    · obtain ⟨hrun, hend⟩ := Service.run_linkWork_new hready hc hpair ignoreExisting
      have htables := (Registry.execute_of_ends hs hend).2
      obtain ⟨hclock, hbegan⟩ := Context.clock_start? hs
      have hover := Registry.clock_execute hs (Service.linkWork identity url ignoreExisting)
      rw [hrun] at hover
      have hover : s.registry.database.clock + 3 ≤ _ := hover
      have htime : (Sync.tick (Sync.tick s)).time =
          if s.registry.database.backend.clockStands then s.txn.began
          else s.registry.database.clock + 3 := rfl
      apply h.execute
      rw [htables, hview]
      apply h.dated.tie
      · change r.database.clock < (Sync.tick (Sync.tick s)).time
        rw [htime]
        split <;> omega
      · change (Sync.tick (Sync.tick s)).time ≤ _
        rw [htime]
        split <;> omega

theorem serve (h : r.IsSequential) (s : Service) (who : Caller) (q : Request α) :
    (s.serve who q r).2.IsSequential := by
  rcases s.serve_cases who q r with hsame | ⟨w, hw, hexecute⟩ | ⟨β, c, -, hcall⟩
  · rw [hsame]
    exact h
  · rw [hexecute]
    cases q with
    | save c =>
      obtain ⟨n, -, rfl⟩ := Request.exists_normalize hw
      apply h.execute_of_links
      rw [Service.execute_saveWork h.toIsReady n]
    | delete id =>
      cases hw
      exact h.execute_of_makes (Service.makes_deleteWork rfl)
    | link identity url ignoreExisting =>
      cases hw
      exact h.linkWork _ _ _
    | unlink identity url =>
      cases hw
      exact h.execute_of_makes (Service.makes_unlinkWork rfl)
    | load _ | find _ | list _ | clustersOf _ => cases hw
  · rw [hcall]
    exact h.call c

theorem sync (h : r.IsSequential) (terms : Terms) (s : Snapshot) :
    (r.sync terms s).2.IsSequential := by
  apply h.execute_of_links
  change (r.sync terms s).2.database.tables.links.Sublist _
  rw [Registry.links_sync h.toIsReady]

end Registry.IsSequential

/-! ### Operations -/

/-- What a registry is used for, by the type of the answer. -/
inductive Operation : Type → Type 1 where
  | call (c : Call α) : Operation α
  | serve (s : Service) (who : Caller) (q : Request α) : Operation α
  | sync (terms : Terms) (s : Snapshot) : Operation SyncReport

namespace Operation

variable {α : Type}

def perform : Operation α → Registry → Except Error α × Registry
  | call c, r => r.call c
  | serve s who q, r => s.serve who q r
  | sync terms s, r => r.sync terms s

/-- An answer to an operation without the times in it. -/
def timeless : Operation α → α → α
  | call c => c.timeless
  | serve _ _ q => q.timeless
  | sync _ _ => id

theorem isSequential (op : Operation α) {r : Registry} (h : r.IsSequential) :
    (op.perform r).2.IsSequential := by
  cases op with
  | call c => exact h.call c
  | serve s who q => exact h.serve s who q
  | sync terms s => exact h.sync terms s

end Operation

/-! ### Twins stay twins -/

theorem Service.found_timeless (key : String) (answer : Except Error (Option Registered)) :
    (found key answer).map Registered.timeless =
      found key (answer.map (Option.map Registered.timeless)) := by
  rcases answer with e | (_ | c) <;> rfl

/-- A look-up goes by the answer to one call, and without times by this answer without times. -/
theorem Service.exists_look {α : Type} {q : Request α} (hq : q.work? = none) (s : Service)
    (who : Caller) :
    ∃ (β : Type) (c : Call β) (f : Except Error β → Except Error α),
      (∀ answer, (f answer).map q.timeless = f (answer.map c.timeless)) ∧
        ∀ r, s.serve who q r = (f (r.call c).1, (r.call c).2) := by
  cases q with
  | save _ | delete _ | link _ _ _ | unlink _ _ => cases hq
  | load id => exact ⟨_, .load id, found id.render, found_timeless _, fun _ => rfl⟩
  | find url =>
    exact ⟨_, .find (withSlash url), found (withSlash url), found_timeless _, fun _ => rfl⟩
  | list kind => exact ⟨_, .list kind, fun answer => answer, fun _ => rfl, fun _ => rfl⟩
  | clustersOf identity =>
    exact ⟨_, .clustersOf identity, fun answer => answer, fun _ => rfl, fun _ => rfl⟩

namespace Registry.Twins

variable {α : Type} {r r' : Registry}

theorem call (h : r.Twins r') (hr : r.IsSequential) (hr' : r'.IsSequential) (c : Call α) :
    (r.call c).1.map c.timeless = (r'.call c).1.map c.timeless ∧ (r.call c).2.Twins (r'.call c).2 := by
  have hperform :
      (c.perform r.database.backend [] (r.database.clock + 1) r.database.tables).timeless c =
        (c.perform r'.database.backend [] (r'.database.clock + 1) r'.database.tables).timeless c := by
    cases hc : c.asksOrder with
    | false => exact Call.perform_timeless h.left.writable h.right.writable h.tables hc
    | true =>
      cases c with
      | links identity => exact Call.links_timeless hr.dated hr'.dated h.tables identity
      | create _ | save _ | load _ | find _ | delete _ | list _ | link _ _ | loadLink _ _
      | unlink _ _ | clustersOf _ => cases hc
  have hcontinues := r.continues_call c
  have hcontinues' := r'.continues_call c
  refine ⟨?_, h.left.continues hcontinues, h.right.continues hcontinues', ?_, h.ids, h.drawn⟩
  · simp only [Registry.call, Database.call, h.left.traps, h.right.traps]
    exact congrArg Effect.reply hperform
  · simp only [Registry.call, Database.call, h.left.traps, h.right.traps, Call.dooms_perform,
      Bool.false_eq_true, if_false]
    exact congrArg Effect.tables hperform

theorem serve (h : r.Twins r') (hr : r.IsSequential) (hr' : r'.IsSequential) (s : Service)
    (who : Caller) (q : Request α) :
    (s.serve who q r).1.map q.timeless = (s.serve who q r').1.map q.timeless ∧
      (s.serve who q r).2.Twins (s.serve who q r').2 := by
  cases hq : q.work? with
  | none =>
    obtain ⟨β, c, f, htimeless, hserve⟩ := Service.exists_look hq s who
    obtain ⟨hanswer, htwins⟩ := h.call hr hr' c
    rw [hserve, hserve, htimeless, htimeless]
    exact ⟨congrArg f hanswer, htwins⟩
  | some w =>
    obtain ⟨what, hserve⟩ := Service.serve_of_change hq s who
    rw [hserve]
    unfold Service.change
    cases s.policy.authorize who what with
    | error e => exact ⟨rfl, h⟩
    | ok _ =>
      cases w with
      | error e => exact ⟨rfl, h⟩
      | ok w => exact h.execute_map (Request.straight hq) s.terms

/-- **Twins answer an operation alike, and stay twins.** -/
theorem perform (h : r.Twins r') (hr : r.IsSequential) (hr' : r'.IsSequential) (op : Operation α) :
    (op.perform r).1.map op.timeless = (op.perform r').1.map op.timeless ∧
      (op.perform r).2.Twins (op.perform r').2 := by
  cases op with
  | call c => exact h.call hr hr' c
  | serve s who q => exact h.serve hr hr' s who q
  | sync terms s =>
    obtain ⟨hanswer, htwins⟩ := h.execute (Sync.straight_writeAll _ _) terms
    exact ⟨congrArg _ hanswer, htwins⟩

end Registry.Twins

/-! ### Runs -/

namespace Registry

/-- The answers to operations one after another, without the times in them, and the registry that
    the operations leave. -/
def performAll :
    List ((α : Type) × Operation α) → Registry → List ((α : Type) × Except Error α) × Registry
  | [], r => ([], r)
  | ⟨α, op⟩ :: ops, r =>
    let (answer, r) := op.perform r
    let (answers, r) := performAll ops r
    (⟨α, answer.map op.timeless⟩ :: answers, r)

/-- A registry on a new database. -/
def opened (b : Backend) (ids : Nat → Uuid) : Registry := ⟨.create b, ids, 0⟩

theorem Twins.performAll {r r' : Registry} (h : r.Twins r') (hr : r.IsSequential)
    (hr' : r'.IsSequential) (ops : List ((α : Type) × Operation α)) :
    (r.performAll ops).1 = (r'.performAll ops).1 ∧
      (r.performAll ops).2.Twins (r'.performAll ops).2 := by
  induction ops generalizing r r' with
  | nil => exact ⟨rfl, h⟩
  | cons op ops ih =>
    obtain ⟨α, op⟩ := op
    obtain ⟨hanswer, htwins⟩ := h.perform hr hr' op
    obtain ⟨hanswers, hlast⟩ := ih htwins (op.isSequential hr) (op.isSequential hr')
    refine ⟨?_, hlast⟩
    simp only [Registry.performAll, hanswer, hanswers]

/-- **The backends agree.**  Whatever is done to an empty registry, the answers are the same on either
    backend, and so are the tables in the end, but for times. -/
theorem performAll_backends (ids : Nat → Uuid) (ops : List ((α : Type) × Operation α)) :
    ((opened .postgres ids).performAll ops).1 = ((opened .sqlite ids).performAll ops).1 ∧
      ((opened .postgres ids).performAll ops).2.database.tables.timeless =
        ((opened .sqlite ids).performAll ops).2.database.tables.timeless := by
  have hpostgres : (opened .postgres ids).IsSequential := .create rfl rfl
  have hsqlite : (opened .sqlite ids).IsSequential := .create rfl rfl
  have htwins : (opened .postgres ids).Twins (opened .sqlite ids) :=
    ⟨hpostgres.toIsCalm, hsqlite.toIsCalm, rfl, rfl, rfl⟩
  obtain ⟨hanswers, hlast⟩ := htwins.performAll hpostgres hsqlite ops
  exact ⟨hanswers, hlast.tables⟩

end Registry

end Fleet
