/-
  Fleet/Proofs/Service/Placement.lean
  ===================================
  **Putting a cluster at its URL.**

  Requests and syncs write clusters in the same way: they look for the URL, and overwrite what is
  there or create what is not.  They differ in two points only, the identifier of a new cluster and
  what stands in for a token provider that is not given, so both are one unit of work with two
  parameters (`Placement.work`; `Service.saveWork_eq` and `Sync.upsert_eq_work`).

  What stands in the way of a placement can be told from the database before it starts
  (`Placement.Clear`).  If nothing does, one row is overwritten or added (`Placed`), and otherwise
  the placement fails (`Placement.settles_work`).
-/
import Fleet.Proofs.Context.Execution
import Fleet.Proofs.Sync.Upsert
import Fleet.Service

namespace Fleet

open Fleet.Store Fleet.Work

/-- A cluster that is to be put at its URL. -/
structure Placement where
  definition : Definition
  /-- The identifier of the cluster if it is new; without one it gets a fresh one. -/
  given : Option Uuid
  /-- What stands in for the token provider of a cluster that is overwritten. -/
  standIn : Cluster → String

namespace Placement

variable {σ : Type} {p : Placement}

def ofCluster (c : Cluster) : Placement where
  definition := c.toDefinition
  given := if c.id = Uuid.nil then none else some c.id
  standIn old := old.tokenProvider

def ofDefinition (d : Definition) : Placement where
  definition := d
  given := none
  standIn old := firstGiven old.tokenProvider old.id.render

def renew (p : Placement) (old : Cluster) : Cluster :=
  p.definition.withId old.id (firstGiven p.definition.tokenProvider (p.standIn old))

def make (p : Placement) (id : Uuid) : Cluster :=
  p.definition.withId id (firstGiven p.definition.tokenProvider id.render)

def withNewId (p : Placement) (next : Uuid → Work σ α) : Work σ α :=
  match p.given with
  | some id => next id
  | none => .draw next

def write (c : Call Registered) (result : Registered → α) : Work σ α :=
  .call c fun
    | .error e => .fail e
    | .ok written => .done (result written)

def work (p : Placement) (result : Bool → Registered → α) : Work σ α :=
  .call (.find p.definition.url) fun
    | .error e => .fail e
    | .ok (some old) => write (.save (p.renew old)) (result false)
    | .ok none => p.withNewId fun id => write (.create (p.make id)) (result true)

end Placement

theorem Placement.ask_eq_write {σ : Type} (c : Call Registered) :
    (ask c : Work σ Registered) = write c id := by
  refine congrArg (Work.call c) (funext fun reply => ?_)
  cases reply <;> rfl

theorem Service.saveWork_eq {σ : Type} (c : Cluster) :
    (saveWork c : Work σ Registered) = (Placement.ofCluster c).work fun _ written => written := by
  refine congrArg (Work.call (.find c.url)) (funext fun reply => ?_)
  rcases reply with e | (_ | old)
  · rfl
  · simp only [Placement.withNewId, Placement.ofCluster, Work.ofExcept, Work.bind]
    by_cases hid : c.id = Uuid.nil
    · rw [if_pos hid, if_pos hid]
      exact congrArg Work.draw (funext fun id => Placement.ask_eq_write _)
    · rw [if_neg hid, if_neg hid]
      exact Placement.ask_eq_write _
  · exact Placement.ask_eq_write _

theorem Sync.upsert_eq_work {σ : Type} (d : Definition) :
    (upsert d : Work σ Bool) = (Placement.ofDefinition d).work fun isNew _ => isNew :=
  upsert_eq d

namespace Placement

variable {σ α : Type} {p : Placement} {result : Bool → Registered → α}

/-! ### What is in the way, and what comes of it -/

/-- Nothing keeps a call of the placement from being answered. -/
structure Permitted (p : Placement) (b : Backend) (traps : List Trap) (t : Tables) (id : Uuid) :
    Prop where
  writable : b.writable = true
  update : t.rowAt? p.definition.url ≠ none → sprung? traps .update p.definition.name = none
  insert : t.rowAt? p.definition.url = none →
    sprung? traps .insert p.definition.name = none ∧ ∀ r ∈ t.rows, r.id ≠ id.render

/-- The tables after a cluster has been put at its URL. -/
inductive Placed (p : Placement) (id : Uuid) (before after : Tables) : Prop where
  | renewed (now : Nat) {row : Row} {old : Registered} :
      before.rowAt? p.definition.url = some row → row.decode = .ok old →
      old.id.render = row.id → after = before.put (row.overwrite now (p.renew old)) →
      Placed p id before after
  | made (now : Nat) :
      before.rowAt? p.definition.url = none → (∀ r ∈ before.rows, r.id ≠ id.render) →
      after = before.add (Row.ofCluster now (p.make id)) → Placed p id before after

/-- The identifier that a new cluster gets. -/
def newId (p : Placement) (r : Registry) : Uuid := p.given.getD (r.ids r.drawn)

/-- Whether the commit of a placement fails. -/
def isDoomed (p : Placement) (traps : List Trap) (t : Tables) : Bool :=
  (t.rowAt? p.definition.url).isNone && (sprung? traps .commit p.definition.name).isSome

/-- What a placement has come to in a transaction if nothing was in its way. -/
structure Completes (p : Placement) (s s' : Scene σ) : Prop where
  isLive : s'.IsLive
  placed : Placed p (p.newId s.registry) s.txn.view s'.txn.view
  doomed : s'.txn.doomed = (s.txn.doomed || p.isDoomed s.registry.database.traps s.txn.view)

def PermittedIn (p : Placement) (s : Scene σ) : Prop :=
  p.Permitted s.registry.database.backend s.registry.database.traps s.txn.view (p.newId s.registry)

/-- Work that makes the placement: it succeeds exactly if nothing is in the way. -/
inductive Fares (p : Placement) (w : Work σ α) (s : Scene σ) : Prop where
  | done {a : α} {s' : Scene σ} :
      p.PermittedIn s → w.run s = (.done a, s') → p.Completes s s' → Fares p w s
  | failed {e : Error} {s' : Scene σ} :
      ¬ p.PermittedIn s → w.run s = (.failed e, s') → Fares p w s

theorem run_withNewId (next : Uuid → Work σ α) (s : Scene σ) :
    ∃ s₁ : Scene σ, (p.withNewId next).run s = (next (p.newId s.registry)).run s₁ ∧
      s₁.registry.database = s.registry.database ∧ s₁.txn = s.txn := by
  unfold withNewId newId
  cases p.given with
  | some id => exact ⟨s, rfl, rfl, rfl⟩
  | none => exact ⟨s.draw.2, rfl, rfl, rfl⟩

end Placement

namespace Store.Call

variable {b : Backend} {traps : List Trap} {now : Nat} {t : Tables}

theorem dooms_save (c : Cluster) : ((Call.save c).perform b traps now t).dooms = false := by
  unfold perform
  split
  · rfl
  · simp only [run]
    split
    · exact dooms_refuse _ _
    · rfl
    · rfl

theorem dooms_create {c : Cluster} {a : Registered}
    (h : ((Call.create c).perform b traps now t).reply = .ok a) :
    ((Call.create c).perform b traps now t).dooms = (sprung? traps .commit c.name).isSome := by
  obtain ⟨hwritable, hsprung, hfree, -⟩ := create_reply_iff.1 h
  have hinsert : t.insert traps now c = .ok (Row.ofCluster now c, t.add (Row.ofCluster now c)) :=
    Tables.insert_eq_ok_iff.2 ⟨hsprung, hfree, rfl⟩
  simp [perform, writes, hwritable, run, hinsert]

end Store.Call

namespace Placement

variable {σ α : Type} {p : Placement} {s : Scene σ}

/-! ### One writing call -/

/-- One writing call is done if it has been answered. -/
theorem answered_of_write {c : Call Registered} {f : Registered → α} {a : α}
    (h : ((write c f).run s).1 = .done a) :
    ∃ written, (s.call c).1 = .ok written ∧ a = f written ∧
      ((write c f).run s).2 = (s.call c).2 := by
  simp only [write, run] at h ⊢
  cases hanswer : (s.call c).1 with
  | ok written =>
    rw [hanswer] at h
    cases h
    exact ⟨written, rfl, rfl, rfl⟩
  | error e =>
    rw [hanswer] at h
    cases h

/-- Work that comes down to one writing call fares as this call does. -/
theorem fares_of_write {w : Work σ α} {c : Call Registered} {f : Registered → α} {s₁ : Scene σ}
    (hrun : w.run s = (write c f).run s₁)
    (hpermitted : (∃ a, (s₁.call c).1 = .ok a) ↔ p.PermittedIn s)
    (hcompletes : ∀ a, (s₁.call c).1 = .ok a → p.Completes s (s₁.call c).2) : p.Fares w s := by
  simp only [write, run] at hrun
  cases hanswer : (s₁.call c).1 with
  | ok a =>
    rw [hanswer] at hrun
    exact .done (hpermitted.1 ⟨a, hanswer⟩) hrun (hcompletes a hanswer)
  | error e =>
    rw [hanswer] at hrun
    refine .failed ?_ hrun
    intro hallowed
    obtain ⟨a, ha⟩ := hpermitted.2 hallowed
    rw [hanswer] at ha
    cases ha

/-! ### Where there is a cluster at the URL -/

section

variable {row : Row} {old : Registered}

theorem permitted_iff_save (hlive : s.IsLive) (hk : s.txn.view.Keyed)
    (hrow : s.txn.view.rowAt? p.definition.url = some row) (hid : old.id.render = row.id) :
    (∃ a, ((Sync.tick s).call (.save (p.renew old))).1 = .ok a) ↔ p.PermittedIn s := by
  obtain ⟨hmem, hurl⟩ := Tables.rowAt?_eq_some hrow
  have hfound : s.txn.view.row? old.id.render = some row := hid ▸ hk.row?_of_mem hmem
  constructor
  · rintro ⟨a, ha⟩
    obtain ⟨-, hreply, -⟩ := Scene.call_of_ok ha
    obtain ⟨hwritable, r, hr, hsprung, -⟩ := Call.save_reply_iff.1 hreply
    obtain rfl : row = r := Option.some.inj (hfound.symm.trans hr)
    refine ⟨hwritable, fun _ => hsprung, ?_⟩
    intro hnone
    rw [hrow] at hnone
    cases hnone
  · intro hpermitted
    -- the row that was found is the only one at the URL, so nothing stands against the new text
    have hothers : ∀ q ∈ s.txn.view.rows, q.id ≠ row.id → q.url ≠ p.definition.url := by
      intro q hq hne he
      have hdifferent : q ≠ row := fun e => hne (congrArg Row.id e)
      exact (hk.ne hq hmem hdifferent).2 (he.trans hurl.symm)
    have hsprung := hpermitted.update (by rw [hrow]; exact Option.some_ne_none row)
    obtain ⟨a, hreply⟩ : ∃ a, ((Sync.tick s).attempt (.save (p.renew old))).reply = .ok a :=
      ⟨_, Call.save_reply_iff.2 ⟨hpermitted.writable, row, hfound, hsprung, hothers, rfl⟩⟩
    exact ⟨a, by rw [Scene.call_of_reply (s := Sync.tick s) hlive hreply]⟩

theorem completes_save (hk : s.txn.view.Keyed)
    (hrow : s.txn.view.rowAt? p.definition.url = some row) (hdecode : row.decode = .ok old)
    (hid : old.id.render = row.id) {a : Registered}
    (ha : ((Sync.tick s).call (.save (p.renew old))).1 = .ok a) :
    p.Completes s ((Sync.tick s).call (.save (p.renew old))).2 := by
  obtain ⟨hlive, hreply, hcall⟩ := Scene.call_of_ok ha
  have hfound : s.txn.view.row? old.id.render = some row :=
    hid ▸ hk.row?_of_mem (Tables.rowAt?_eq_some hrow).1
  rw [hcall]
  constructor
  · exact hlive.afterCall hreply
  · refine .renewed (Sync.tick s).time hrow hdecode hid ?_
    have hfound : (Sync.tick s).txn.view.row? (p.renew old).id.render = some row := hfound
    rw [Scene.view_afterCall hreply, Call.effect, hfound]
    rfl
  · have hdooms : ((Sync.tick s).attempt (.save (p.renew old))).dooms = false := Call.dooms_save _
    simp only [Scene.afterCall, hdooms, Bool.or_false, isDoomed, hrow, Option.isNone_some,
      Bool.false_and]
    rfl

/-- The work overwrites the cluster that is found at the URL. -/
theorem run_work_renew (result : Bool → Registered → α) (hlive : s.IsLive)
    (hrow : s.txn.view.rowAt? p.definition.url = some row) (hdecode : row.decode = .ok old) :
    (p.work result).run s = (write (.save (p.renew old)) (result false)).run (Sync.tick s) := by
  have hfind : s.call (.find p.definition.url) = (.ok (some old), Sync.tick s) := by
    rw [Sync.call_find hlive, hrow, Call.decode?, hdecode]
    rfl
  rw [work, run, hfind]

theorem fares_renew {result : Bool → Registered → α} (hlive : s.IsLive) (hk : s.txn.view.Keyed)
    (hsound : row.IsSound) (hrow : s.txn.view.rowAt? p.definition.url = some row) :
    p.Fares (p.work result) s := by
  obtain ⟨old, hdecode, hid⟩ := hsound.decode
  apply fares_of_write (run_work_renew result hlive hrow hdecode)
  · exact permitted_iff_save hlive hk hrow hid
  · intro a ha
    exact completes_save hk hrow hdecode hid ha

end

/-! ### Where there is none -/

section

variable {s₁ : Scene σ} (hdatabase : s₁.registry.database = (Sync.tick s).registry.database)
  (htxn : s₁.txn = s.txn) (hrow : s.txn.view.rowAt? p.definition.url = none)

include hdatabase htxn hrow

theorem permitted_iff_create (hlive : s.IsLive) :
    (∃ a, (s₁.call (.create (p.make (p.newId s.registry)))).1 = .ok a) ↔ p.PermittedIn s := by
  have hview : s₁.txn.view = s.txn.view := congrArg Txn.view htxn
  have hbackend : s₁.registry.database.backend = s.registry.database.backend := by
    rw [hdatabase]
    rfl
  have htraps : s₁.registry.database.traps = s.registry.database.traps := by
    rw [hdatabase]
    rfl
  constructor
  · rintro ⟨a, ha⟩
    obtain ⟨-, hreply, -⟩ := Scene.call_of_ok ha
    obtain ⟨hwritable, hsprung, hfree, -⟩ := Call.create_reply_iff.1 hreply
    rw [hbackend] at hwritable
    rw [htraps] at hsprung
    rw [hview] at hfree
    exact ⟨hwritable, fun hsome => absurd hrow hsome, fun _ => ⟨hsprung, fun r hr => (hfree r hr).1⟩⟩
  · intro hpermitted
    obtain ⟨hsprung, hids⟩ := hpermitted.insert hrow
    have hurl : ∀ r ∈ s.txn.view.rows, r.url ≠ p.definition.url := by
      simpa [Tables.rowAt?] using hrow
    obtain ⟨a, hreply⟩ : ∃ a,
        (s₁.attempt (.create (p.make (p.newId s.registry)))).reply = .ok a := by
      refine ⟨_, Call.create_reply_iff.2 ⟨?_, ?_, ?_, rfl⟩⟩
      · rw [hbackend]
        exact hpermitted.writable
      · rw [htraps]
        exact hsprung
      · rw [hview]
        exact fun r hr => ⟨hids r hr, hurl r hr⟩
    have hlive₁ : s₁.IsLive := by
      rw [Scene.IsLive, htxn]
      exact hlive
    exact ⟨_, by rw [Scene.call_of_reply hlive₁ hreply]⟩

theorem completes_create {a : Registered}
    (ha : (s₁.call (.create (p.make (p.newId s.registry)))).1 = .ok a) :
    p.Completes s (s₁.call (.create (p.make (p.newId s.registry)))).2 := by
  have hview : s₁.txn.view = s.txn.view := congrArg Txn.view htxn
  have htraps : s₁.registry.database.traps = s.registry.database.traps := by
    rw [hdatabase]
    rfl
  obtain ⟨hlive, hreply, hcall⟩ := Scene.call_of_ok ha
  obtain ⟨-, -, hfree, -⟩ := Call.create_reply_iff.1 hreply
  rw [hview] at hfree
  rw [hcall]
  constructor
  · exact hlive.afterCall hreply
  · refine .made s₁.time hrow (fun r hr => (hfree r hr).1) ?_
    rw [Scene.view_afterCall hreply, Call.effect, hview]
  · have hdooms : (s₁.attempt (.create (p.make (p.newId s.registry)))).dooms = _ :=
      Call.dooms_create hreply
    simp only [Scene.afterCall, isDoomed, hrow, Option.isNone_none, Bool.true_and, hdooms, htxn,
      htraps]
    rfl

end

/-- The work creates a cluster if none is found at the URL. -/
theorem run_work_make (result : Bool → Registered → α) (hlive : s.IsLive)
    (hrow : s.txn.view.rowAt? p.definition.url = none) :
    ∃ s₁ : Scene σ, s₁.registry.database = (Sync.tick s).registry.database ∧ s₁.txn = s.txn ∧
      (p.work result).run s =
        (write (.create (p.make (p.newId s.registry))) (result true)).run s₁ := by
  obtain ⟨s₁, hnew, hdatabase, htxn⟩ := run_withNewId (p := p) (s := Sync.tick s)
    fun id => write (.create (p.make id)) (result true)
  have hfind : s.call (.find p.definition.url) = (.ok none, Sync.tick s) := by
    rw [Sync.call_find hlive, hrow, Call.decode?]
  refine ⟨s₁, hdatabase, htxn, ?_⟩
  rw [work, run, hfind]
  exact hnew

theorem fares_make {result : Bool → Registered → α} (hlive : s.IsLive)
    (hrow : s.txn.view.rowAt? p.definition.url = none) : p.Fares (p.work result) s := by
  obtain ⟨s₁, hdatabase, htxn, hrun⟩ := run_work_make result hlive hrow
  apply fares_of_write hrun
  · exact permitted_iff_create hdatabase htxn hrow hlive
  · intro a ha
    exact completes_create hdatabase htxn hrow ha

/-- **A placement succeeds exactly if nothing is in its way.** -/
theorem fares_work {result : Bool → Registered → α} (hlive : s.IsLive) (hk : s.txn.view.Keyed)
    (hsound : ∀ r ∈ s.txn.view.rows, r.IsSound) : p.Fares (p.work result) s := by
  cases hrow : s.txn.view.rowAt? p.definition.url with
  | none => exact fares_make hlive hrow
  | some row => exact fares_renew hlive hk (hsound row (Tables.rowAt?_eq_some hrow).1) hrow

end Placement

/-! ### In a transaction of its own -/

namespace Context

variable {σ α : Type} {terms : Terms} {r : Registry} {w : Work σ α} {x : σ} {s s' : Scene σ} {a : α}

theorem start?_eq_none_iff :
    start? terms r x = none ↔ r.database.traps.find? (·.point = .start) ≠ none := by
  unfold start? Txn.begin
  cases r.database.traps.find? (·.point = .start) <;> simp

/-- Work that succeeds in a live transaction is committed, unless the transaction is doomed. -/
theorem execute_of_run_done (hs : start? terms r x = some s) (hrun : w.run s = (.done a, s'))
    (hlive : s'.IsLive) (hdoomed : s'.txn.doomed = false) :
    (execute terms w r x .idle).outcome = .done a ∧
      (execute terms w r x .idle).registry.database.tables = s'.txn.view := by
  have htimely := (run_path w s).isTimely (starts hs).isTimely
  rw [hrun] at htimely
  have hcancelled : s'.cancelled = false :=
    htimely.marked.symm.trans (Bool.or_eq_false_iff.1 hlive.1).1
  have hcommit : (s'.txn.commit s'.registry.database).1 = .ok () :=
    Txn.commit_ok hlive.1 hlive.2 hdoomed
  have hsettled : (settle terms (.done a) s').1 = .done a := settle_of_commit hcancelled hcommit
  rw [execute_of_start hs, hrun]
  refine ⟨hsettled, ?_⟩
  simp only [(settle_done hsettled).2.2.2, (Txn.tables_of_commit_ok hcommit).2, hlive.2,
    reduceCtorEq, if_false]

/-- Work of an execution that succeeds is done, and what it has left in a live transaction is
    committed. -/
theorem exists_run_of_done (h : (execute terms w r x .idle).outcome = .done a) :
    ∃ s, start? terms r x = some s ∧ (w.run s).1 = .done a ∧
      ((w.run s).2.IsLive →
        (execute terms w r x .idle).registry.database.tables = (w.run s).2.txn.view) := by
  cases hs : start? terms r x with
  | none =>
    obtain ⟨e, -, he⟩ := execute_of_not_start (w := w) hs
    rw [he] at h
    cases h
  | some s =>
    rw [execute_of_start hs] at h ⊢
    obtain ⟨hdone, -, hcommit, hsettle⟩ := settle_done h
    refine ⟨s, rfl, hdone, fun hlive => ?_⟩
    simp only [hsettle, (Txn.tables_of_commit_ok hcommit).2, hlive.2, reduceCtorEq, if_false]

theorem not_done_of_doomed (hs : start? terms r x = some s) (hrun : w.run s = (.done a, s'))
    (hlive : s'.IsLive) (hdoomed : s'.txn.doomed = true) (b : α) :
    (execute terms w r x .idle).outcome ≠ .done b := by
  rw [execute_of_start hs, hrun]
  intro hdone
  obtain ⟨-, -, hcommit, -⟩ := settle_done hdone
  simp [Txn.commit, hlive.1, hlive.2, hdoomed] at hcommit

end Context

namespace Placement

variable {α : Type} {p : Placement} {result : Bool → Registered → α} {r : Registry} {terms : Terms}
  {w : Work Unit α}

/-- Nothing is in the way of a placement, from the beginning of its transaction to the commit. -/
structure Clear (p : Placement) (db : Database) (id : Uuid) : Prop where
  start : db.traps.find? (·.point = .start) = none
  permitted : p.Permitted db.backend db.traps db.tables id
  commit : p.isDoomed db.traps db.tables = false

/-- What an execution of a placement comes to: it succeeds exactly if nothing is in its way. -/
inductive Settles (p : Placement) (r : Registry) (x : Except Error α × Registry) : Prop where
  | ok {a : α} {r' : Registry} :
      p.Clear r.database (p.newId r) → x = (.ok a, r') →
      Placed p (p.newId r) r.database.tables r'.database.tables → Settles p r x
  | error {e : Error} {r' : Registry} :
      ¬ p.Clear r.database (p.newId r) → x = (.error e, r') →
      r'.database.tables = r.database.tables → Settles p r x

theorem settles_of_not_done (hnot : ¬ p.Clear r.database (p.newId r))
    (h : ∀ a, (Context.execute terms w r () .idle).outcome ≠ .done a) :
    p.Settles r (r.execute terms w) := by
  cases hanswer : (r.execute terms w).1 with
  | ok a => exact absurd (Registry.answer_eq_ok.1 hanswer) (h a)
  | error e => exact .error hnot (Prod.ext hanswer rfl) (Context.tables_of_not_done h)

theorem permittedIn_iff {s : Scene Unit} (hs : Context.Starts r s) : p.PermittedIn s ↔
    p.Permitted r.database.backend r.database.traps r.database.tables (p.newId r) := by
  have hid : p.newId s.registry = p.newId r := by
    rw [newId, newId, hs.ids, hs.drawn]
  rw [PermittedIn, hs.backend, hs.traps, hs.view, hid]

/-- When all calls have been answered, the commit decides. -/
theorem settles_of_completes {s s' : Scene Unit} {a : α} (hs : Context.start? terms r () = some s)
    (hpermitted : p.PermittedIn s) (hrun : w.run s = (.done a, s')) (hcompletes : p.Completes s s') :
    p.Settles r (r.execute terms w) := by
  have hstart := Context.starts hs
  have hdoomed : s'.txn.doomed = p.isDoomed r.database.traps r.database.tables := by
    rw [hcompletes.doomed, hstart.doomed, hstart.traps, hstart.view, Bool.false_or]
  cases hfate : p.isDoomed r.database.traps r.database.tables with
  | false =>
    have hstarted : r.database.traps.find? (·.point = .start) = none := by
      by_contra htrap
      rw [Context.start?_eq_none_iff.2 htrap] at hs
      cases hs
    obtain ⟨hdone, htables⟩ :=
      Context.execute_of_run_done hs hrun hcompletes.isLive (hdoomed.trans hfate)
    refine .ok ⟨hstarted, (permittedIn_iff hstart).1 hpermitted, hfate⟩
      (Prod.ext (Registry.answer_eq_ok.2 hdone) rfl) ?_
    have hplaced := hcompletes.placed
    rw [newId, hstart.ids, hstart.drawn, hstart.view, ← htables] at hplaced
    exact hplaced
  | true =>
    apply settles_of_not_done
    · intro hclear
      rw [hclear.commit] at hfate
      cases hfate
    · exact Context.not_done_of_doomed hs hrun hcompletes.isLive (hdoomed.trans hfate)

theorem settles_of_fares (hw : ∀ s, Context.Starts r s → p.Fares w s) :
    p.Settles r (r.execute terms w) := by
  cases hs : Context.start? terms r () with
  | none =>
    obtain ⟨e, -, he⟩ := Context.execute_of_not_start (w := w) hs
    apply settles_of_not_done
    · intro hclear
      exact Context.start?_eq_none_iff.1 hs hclear.start
    · intro a hdone
      rw [he] at hdone
      cases hdone
  | some start =>
    have hstart := Context.starts hs
    cases hw start hstart with
    | done hpermitted hrun hcompletes => exact settles_of_completes hs hpermitted hrun hcompletes
    | failed hnot hrun =>
      apply settles_of_not_done
      · intro hclear
        exact hnot ((permittedIn_iff hstart).2 hclear.permitted)
      · intro a hdone
        rw [Context.execute_of_start hs, hrun] at hdone
        cases (Context.settle_done hdone).1

/-- **A placement in a transaction of its own succeeds exactly if nothing is in its way.** -/
theorem settles_work (hk : r.database.tables.Keyed)
    (hsound : ∀ row ∈ r.database.tables.rows, row.IsSound) :
    p.Settles r (r.execute terms (p.work result)) := by
  apply settles_of_fares
  intro s hs
  apply fares_work hs.isLive
  · rw [hs.view]
    exact hk
  · rw [hs.view]
    exact hsound

end Placement

/-- So does a request to save a cluster. -/
theorem Service.settles_saveWork {r : Registry} (terms : Terms) (c : Cluster)
    (hk : r.database.tables.Keyed) (hsound : ∀ row ∈ r.database.tables.rows, row.IsSound) :
    (Placement.ofCluster c).Settles r (r.execute terms (saveWork c)) := by
  rw [saveWork_eq]
  exact Placement.settles_work hk hsound

end Fleet
