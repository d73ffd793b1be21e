/-
  Fleet/Proofs/Store/Chronicle.lean
  =================================
  **What is read is what was written last.**

  A chronicle is everything that has been done at a database since it was made: direct calls, and
  transactions that were opened, used and ended, in any order (`Chronicle`).  It keeps logs of what
  was written, the latest entry first: one of what is committed, and one for each transaction, which
  begins as that of what is committed, and becomes that once the transaction is committed.

  Rows agree with the log (`Tables.Kept`): each of them holds the cluster that was last written
  with its identifier, with the time of this, and with the time at which a cluster with this
  identifier was last created (`Entry.current`).  A call keeps this, whether it is answered or not
  (`Tables.Kept.perform`), and whatever else is done at a database keeps it as well
  (`Chronicle.kept`).  Therefore whatever is read at any time, directly or in an open transaction, is
  read from one list of clusters and is what was written last (`Chronicle.reads`).
-/
import Fleet.Proofs.Store.LifeCycle
import Fleet.Proofs.Store.Reading

namespace Fleet.Store

/-! ### Logs -/

/-- A cluster that was written, and the time of this. -/
inductive Entry where
  | created (time : Nat) (c : Cluster)
  | saved (time : Nat) (c : Cluster)

namespace Entry

def cluster : Entry → Cluster
  | created _ c | saved _ c => c

def time : Entry → Nat
  | created time _ | saved time _ => time

/-- The time at which the cluster was created. -/
def created? : Entry → Option Nat
  | created time _ => some time
  | saved _ _ => none

/-- What a call at a time writes if it is answered. -/
def ofCall? (time : Nat) : Call α → Option Entry
  | .create c => some (.created time c)
  | .save c => some (.saved time c)
  | .load _ | .find _ | .delete _ | .list _ | .link _ _ | .loadLink _ _ | .unlink _ _ | .links _
  | .clustersOf _ => none

/-- The log after a call at a time has got this reply. -/
def record (log : List Entry) (time : Nat) (c : Call α) : Except Error α → List Entry
  | .ok _ => (ofCall? time c).toList ++ log
  | .error _ => log

/-- What was last written under an identifier. -/
def lastWritten (id : Uuid) (log : List Entry) : Option Entry := log.find? (·.cluster.id = id)

/-- When a cluster with an identifier was last created. -/
def lastCreated (id : Uuid) (log : List Entry) : Option Nat :=
  log.findSome? fun e => if e.cluster.id = id then e.created? else none

/-- What is to be read under an identifier: the cluster that was last written, with the time at which
    it was last created and that at which it was last written. -/
def current (id : Uuid) (log : List Entry) : Option Registered :=
  (lastWritten id log).bind fun e => (lastCreated id log).map fun created =>
    ⟨e.cluster, created, e.time⟩

variable {id : Uuid} {log : List Entry} {e : Entry}

theorem lastCreated_of_current {c : Registered} (h : current id log = some c) :
    lastCreated id log = some c.created := by
  obtain ⟨e, -, h⟩ := Option.bind_eq_some_iff.1 h
  obtain ⟨created, hcreated, rfl⟩ := Option.map_eq_some_iff.1 h
  exact hcreated

theorem current_cons_of_ne (h : e.cluster.id ≠ id) : current id (e :: log) = current id log := by
  have hwritten : lastWritten id (e :: log) = lastWritten id log := by
    simp [lastWritten, h]
  have hcreated : lastCreated id (e :: log) = lastCreated id log := by
    simp [lastCreated, h]
  rw [current, current, hwritten, hcreated]

theorem current_created (time : Nat) (c : Cluster) (log : List Entry) :
    current c.id (.created time c :: log) = some ⟨c, time, time⟩ := by
  have hwritten : lastWritten c.id (.created time c :: log) = some (.created time c) := by
    simp [lastWritten, cluster]
  have hcreated : lastCreated c.id (.created time c :: log) = some time := by
    simp [lastCreated, cluster, created?]
  rw [current, hwritten, hcreated]
  rfl

theorem current_saved {c : Cluster} {old : Registered} (h : current c.id log = some old)
    (time : Nat) : current c.id (.saved time c :: log) = some ⟨c, old.created, time⟩ := by
  have hwritten : lastWritten c.id (.saved time c :: log) = some (.saved time c) := by
    simp [lastWritten, cluster]
  have hcreated : lastCreated c.id (.saved time c :: log) = lastCreated c.id log := by
    simp [lastCreated, created?]
  rw [current, hwritten, hcreated, lastCreated_of_current h]
  rfl

end Entry

/-! ### Rows and logs -/

namespace Row

/-- The row holds what is to be read under its identifier. -/
def Agrees (r : Row) (log : List Entry) : Prop := ∃ c, r.Holds c ∧ Entry.current c.id log = some c

variable {r : Row} {log : List Entry} {c : Cluster}

theorem Agrees.cons {e : Entry} (h : r.Agrees log) (hr : r.IsSound)
    (hne : r.id ≠ e.cluster.id.render) : r.Agrees (e :: log) := by
  obtain ⟨c, hc, hcurrent⟩ := h
  have hid : e.cluster.id ≠ c.id := by
    intro heq
    exact hne ((hr.id_iff hc _).2 heq.symm)
  exact ⟨c, hc, (Entry.current_cons_of_ne hid).trans hcurrent⟩

theorem agrees_ofCluster (now : Nat) (c : Cluster) (log : List Entry) :
    (ofCluster now c).Agrees (.created now c :: log) :=
  ⟨_, decode_ofCluster now c, Entry.current_created now c log⟩

theorem Agrees.overwrite (h : r.Agrees log) (hr : r.IsSound) (now : Nat) (hid : r.id = c.id.render) :
    (r.overwrite now c).Agrees (.saved now c :: log) := by
  obtain ⟨old, hold, hcurrent⟩ := h
  rw [(hr.id_iff hold _).1 hid] at hcurrent
  have hsaved := Entry.current_saved hcurrent now
  rw [(times_of_decode hold).1] at hsaved
  exact ⟨_, decode_overwrite now hid, hsaved⟩

end Row

namespace Call

variable {b : Backend} {traps : List Trap} {now : Nat} {t : Tables}

/-- Nothing dooms a transaction but the creation of a cluster whose identifier is free. -/
theorem free_of_dooms {c : Call α} (h : (c.perform b traps now t).dooms = true) :
    ∃ d, Entry.ofCall? now c = some (.created now d) ∧ ∀ r ∈ t.rows, r.id ≠ d.id.render := by
  unfold perform at h
  split at h
  · cases h
  · cases c with
    | create c =>
      refine ⟨c, rfl, ?_⟩
      simp only [run] at h
      split at h
      · rw [dooms_refuse] at h
        cases h
      · rename_i hinsert
        intro r hr
        exact ((Tables.insert_eq_ok_iff.1 hinsert).2.1 r hr).1
    | load _ | find _ | list _ | loadLink _ _ | links _ | clustersOf _ => cases h
    | save _ | delete _ | link _ _ | unlink _ _ =>
      simp only [run] at h
      split at h <;> first | cases h | (rw [dooms_refuse] at h; cases h)

end Call

namespace Tables

variable {t : Tables} {log : List Entry}

/-- Tidy tables whose rows agree with what was written. -/
structure Kept (t : Tables) (log : List Entry) : Prop where
  tidy : t.IsTidy
  agrees : ∀ r ∈ t.rows, r.Agrees log

theorem kept_empty : Tables.empty.Kept [] := ⟨isTidy_empty, nofun⟩

/-- **A call keeps the rows in agreement with the log**, whether it is answered or not. -/
theorem Kept.perform (h : t.Kept log) {b : Backend} {traps : List Trap} {now : Nat} (c : Call α) :
    (c.perform b traps now t).tables.Kept
      (Entry.record log now c (c.perform b traps now t).reply) := by
  refine ⟨Call.isTidy_perform c h.tidy, ?_⟩
  cases hreply : (c.perform b traps now t).reply with
  | error e =>
    rw [Call.perform_tables_of_error hreply]
    exact h.agrees
  | ok a =>
    rw [Call.perform_tables_of_ok hreply]
    cases c with
    | create c =>
      obtain ⟨-, -, hfree, -⟩ := Call.create_reply_iff.1 hreply
      intro r hr
      rcases List.mem_append.1 hr with hr | hr
      · exact (h.agrees r hr).cons (h.tidy.sound r hr) (hfree r hr).1
      · rw [List.mem_singleton.1 hr]
        exact Row.agrees_ofCluster now c log
    | save c =>
      obtain ⟨-, old, hold, -⟩ := Call.save_reply_iff.1 hreply
      obtain ⟨hmem, hid⟩ := row?_eq_some hold
      simp only [Call.effect, hold]
      intro r hr
      obtain ⟨q, hq, rfl⟩ := List.mem_map.1 hr
      split
      · exact (h.agrees old hmem).overwrite (h.tidy.sound old hmem) now hid
      · rename_i hne
        exact (h.agrees q hq).cons (h.tidy.sound q hq) fun heq => hne (heq.trans hid.symm)
    | delete id =>
      simp only [Call.effect]
      split
      · exact h.agrees
      · exact fun r hr => h.agrees r (List.mem_filter.1 hr).1
    | unlink identity url =>
      simp only [Call.effect]
      split <;> exact h.agrees
    | load _ | find _ | list _ | link _ _ | loadLink _ _ | links _ | clustersOf _ => exact h.agrees

/-- A call that is answered and then dropped, because it dooms its transaction, has only written
    where there is no row. -/
theorem Kept.drop_doomed (h : t.Kept log) {b : Backend} {traps : List Trap} {now : Nat} {c : Call α}
    (hdooms : (c.perform b traps now t).dooms = true) (reply : Except Error α) :
    t.Kept (Entry.record log now c reply) := by
  cases reply with
  | error e => exact h
  | ok a =>
    obtain ⟨d, hentry, hfree⟩ := Call.free_of_dooms hdooms
    refine ⟨h.tidy, ?_⟩
    intro r hr
    rw [Entry.record, hentry]
    exact (h.agrees r hr).cons (h.tidy.sound r hr) (hfree r hr)

/-- What is read with `ask` is read from one list of clusters, and is what the log says was
    written last. -/
structure Reads (t : Tables) (log : List Entry)
    (ask : ∀ {α : Type}, Call α → Except Error α) : Prop where
  views : ∃ cs, t.Views ask cs
  loaded : ∀ id c, ask (.load id) = .ok (some c) → Entry.current id log = some c ∧
    ∃ r, t.row? id.render = some r ∧ r.Holds c ∧ r.created = c.created ∧ r.updated = c.updated
  found : ∀ url c, ask (.find url) = .ok (some c) → Entry.current c.id log = some c ∧
    ∃ r, t.rowAt? url = some r ∧ r.Holds c ∧ r.created = c.created ∧ r.updated = c.updated

theorem exists_of_decode? {o : Option Row} {c : Registered} (h : Call.decode? o = .ok (some c)) :
    ∃ r, o = some r ∧ r.Holds c := by
  cases o with
  | none => cases h
  | some r =>
    refine ⟨r, rfl, ?_⟩
    rw [Call.decode?] at h
    cases hdecode : r.decode with
    | error e =>
      rw [hdecode] at h
      cases h
    | ok d =>
      rw [hdecode] at h
      cases h
      exact hdecode

theorem Kept.current_of_holds (h : t.Kept log) {r : Row} (hr : r ∈ t.rows) {c : Registered}
    (hc : r.Holds c) : Entry.current c.id log = some c := by
  obtain ⟨d, hd, hcurrent⟩ := h.agrees r hr
  obtain rfl : c = d := Except.ok.inj (hc.symm.trans hd)
  exact hcurrent

theorem Kept.reads (h : t.Kept log) (b : Backend) (traps : List Trap) (now : Nat) :
    t.Reads log fun c => (c.perform b traps now t).reply where
  views := h.tidy.exists_views b traps now
  loaded id c hload := by
    obtain ⟨r, hr, hc⟩ := exists_of_decode? hload
    obtain ⟨hmem, hid⟩ := row?_eq_some hr
    obtain rfl : c.id = id := ((h.tidy.sound r hmem).id_iff hc id).1 hid
    obtain ⟨hcreated, hupdated⟩ := Row.times_of_decode hc
    exact ⟨h.current_of_holds hmem hc, r, hr, hc, hcreated.symm, hupdated.symm⟩
  found url c hfind := by
    obtain ⟨r, hr, hc⟩ := exists_of_decode? hfind
    obtain ⟨hcreated, hupdated⟩ := Row.times_of_decode hc
    exact ⟨h.current_of_holds (rowAt?_eq_some hr).1 hc, r, hr, hc, hcreated.symm, hupdated.symm⟩

end Tables

/-! ### Chronicles -/

/-- A database with the log of what is committed, and the transactions on it, each with the log of
    what it sees. -/
inductive Chronicle : Database → List Entry → List (Txn × List Entry) → Prop where
  | create : Chronicle (.create .sqlite) [] []
  /-- The database is closed, which is the end of its transactions, and opened again. -/
  | reopen {db : Database} {log : List Entry} {xs : List (Txn × List Entry)} (writable : Bool) :
      Chronicle db log xs → Chronicle { db with backend := { Backend.sqlite with writable } } log []
  | trap {db : Database} {log : List Entry} {xs : List (Txn × List Entry)} (t : Trap) :
      Chronicle db log xs → Chronicle (db.setTrap t) log xs
  | call {db : Database} {log : List Entry} {xs : List (Txn × List Entry)} (c : Call α) :
      Chronicle db log xs →
      Chronicle (db.call c).2 (Entry.record log (db.clock + 1) c (db.call c).1) xs
  | begin {db db' : Database} {log : List Entry} {xs ys : List (Txn × List Entry)} {x : Txn}
      (level : Isolation) : Chronicle db log (xs ++ ys) → Txn.begin db level = (.ok x, db') →
      Chronicle db' log (xs ++ (x, log) :: ys)
  | callIn {db : Database} {log l : List Entry} {xs ys : List (Txn × List Entry)} {x : Txn}
      (c : Call α) : Chronicle db log (xs ++ (x, l) :: ys) →
      Chronicle (x.call db c).2.1 log
        (xs ++ ((x.call db c).2.2, Entry.record l (db.clock + 1) c (x.call db c).1) :: ys)
  | commit {db : Database} {log l : List Entry} {xs ys : List (Txn × List Entry)} {x : Txn} :
      Chronicle db log (xs ++ (x, l) :: ys) →
      Chronicle (x.commit db).2.1 (if (x.commit db).1.isOk then l else log)
        (xs ++ ((x.commit db).2.2, l) :: ys)
  | rollback {db : Database} {log l : List Entry} {xs ys : List (Txn × List Entry)} {x : Txn} :
      Chronicle db log (xs ++ (x, l) :: ys) →
      Chronicle (x.rollback db).2.1 log (xs ++ ((x.rollback db).2.2, l) :: ys)
  | mark {db : Database} {log l : List Entry} {xs ys : List (Txn × List Entry)} {x : Txn} :
      Chronicle db log (xs ++ (x, l) :: ys) → Chronicle db log (xs ++ (x.markClosed, l) :: ys)
  | sever {db : Database} {log l : List Entry} {xs ys : List (Txn × List Entry)} {x : Txn} :
      Chronicle db log (xs ++ (x, l) :: ys) → Chronicle db log (xs ++ (x.sever, l) :: ys)

/-- Whatever is read directly agrees with the log of what is committed, and whatever is read in a
    transaction that is open and has its connection agrees with its own. -/
structure Database.Reads (db : Database) (log : List Entry) (xs : List (Txn × List Entry)) : Prop where
  direct : db.tables.Reads log fun c => (db.call c).1
  within : ∀ x l, (x, l) ∈ xs → x.isClosed = false → x.condition ≠ .lost →
    x.view.Reads l fun c => (x.call db c).1

/-- A transaction that agrees with its log.  A failed statement has not aborted it. -/
structure Txn.Kept (x : Txn) (l : List Entry) : Prop where
  view : x.view.Kept l
  condition : x.condition ≠ .aborted

/-- What a chronicle keeps: everything agrees with its log. -/
structure Database.Kept (db : Database) (log : List Entry) (xs : List (Txn × List Entry)) : Prop where
  backend : db.backend.clockStands = false ∧ db.backend.abortsOnFailure = false
  committed : db.tables.Kept log
  transactions : ∀ p ∈ xs, p.1.Kept p.2

variable {db : Database} {log l : List Entry} {xs ys : List (Txn × List Entry)} {x : Txn}

theorem Database.Kept.call (h : db.Kept log xs) (c : Call α) :
    (db.call c).2.Kept (Entry.record log (db.clock + 1) c (db.call c).1) xs := by
  refine ⟨h.backend, ?_, h.transactions⟩
  simp only [Database.call]
  split
  · rename_i hdooms
    exact h.committed.drop_doomed hdooms _
  · exact h.committed.perform c

theorem Txn.Kept.call (h : x.Kept l)
    (hdb : db.backend.clockStands = false ∧ db.backend.abortsOnFailure = false) (c : Call α) :
    (x.call db c).2.1.backend = db.backend ∧ (x.call db c).2.1.tables = db.tables ∧
      (x.call db c).2.2.Kept (Entry.record l (db.clock + 1) c (x.call db c).1) := by
  unfold Txn.call
  split
  · exact ⟨rfl, rfl, h⟩
  · cases hx : x.condition with
    | lost => exact ⟨rfl, rfl, h⟩
    | aborted => exact absurd hx h.condition
    | running =>
      refine ⟨rfl, rfl, ?_, ?_⟩
      · simp only [Txn.perform, hdb.1]
        exact h.view.perform c
      · simp [Txn.perform, hdb.2]

theorem Txn.kept_of_begin {db' : Database} {level : Isolation} (h : db.tables.Kept log)
    (hbegin : Txn.begin db level = (.ok x, db')) : x.Kept log := by
  refine ⟨(Txn.begun hbegin).view ▸ h, ?_⟩
  unfold Txn.begin at hbegin
  split at hbegin <;> cases hbegin
  nofun

theorem Txn.condition_attempt (db : Database) (x : Txn) (e : Ending) :
    (e.attempt db x).2.2.condition = x.condition := by
  cases e with
  | commit =>
    simp only [Ending.attempt, Txn.commit]
    split
    · rfl
    · split
      · rfl
      · rfl
      · split <;> rfl
  | rollback =>
    simp only [Ending.attempt, Txn.rollback]
    split
    · rfl
    · split <;> rfl

theorem Txn.Kept.attempt (h : x.Kept l) (db : Database) (e : Ending) : (e.attempt db x).2.2.Kept l where
  view := by
    have hcloses : Ending.Closes db x (e.attempt db x).2 := e.closes
    rw [hcloses.view]
    exact h.view
  condition := by
    rw [condition_attempt]
    exact h.condition

/-- **What is committed goes with its log**, whatever comes of the commit. -/
theorem Txn.Kept.commit (h : x.Kept l) (hdb : db.tables.Kept log) :
    (x.commit db).2.1.tables.Kept (if (x.commit db).1.isOk then l else log) := by
  cases hreply : (x.commit db).1 with
  | ok u =>
    rw [(tables_of_commit_ok hreply).2, if_neg h.condition]
    exact h.view
  | error e =>
    rw [tables_of_commit_error hreply]
    exact hdb

/-- What is done in one transaction leaves the others alone. -/
theorem Database.Kept.replace (h : db.Kept log (xs ++ (x, l) :: ys)) {db' : Database}
    {log' l' : List Entry} {x' : Txn} (hbackend : db'.backend = db.backend)
    (hdb : db'.tables.Kept log') (hx : x'.Kept l') : db'.Kept log' (xs ++ (x', l') :: ys) := by
  have hall := h.transactions
  rw [List.forall_mem_append, List.forall_mem_cons] at hall
  refine ⟨hbackend ▸ h.backend, hdb, ?_⟩
  rw [List.forall_mem_append, List.forall_mem_cons]
  exact ⟨hall.1, hx, hall.2.2⟩

theorem Database.Kept.at (h : db.Kept log (xs ++ (x, l) :: ys)) : x.Kept l :=
  h.transactions (x, l) (List.mem_append_right _ List.mem_cons_self)

namespace Chronicle

/-- **Everything that can be done keeps the rows in agreement with the logs.** -/
theorem kept (h : Chronicle db log xs) : db.Kept log xs := by
  induction h with
  | create => exact ⟨⟨rfl, rfl⟩, Tables.kept_empty, nofun⟩
  | reopen writable _ ih => exact ⟨⟨rfl, rfl⟩, ih.committed, nofun⟩
  | trap t _ ih => exact ⟨ih.backend, ih.committed, ih.transactions⟩
  | call c _ ih => exact ih.call c
  | begin level _ hbegin ih =>
    have hbegun := Txn.begun hbegin
    have hall := ih.transactions
    rw [List.forall_mem_append] at hall
    refine ⟨hbegun.backend ▸ ih.backend, hbegun.tables ▸ ih.committed, ?_⟩
    rw [List.forall_mem_append, List.forall_mem_cons]
    exact ⟨hall.1, Txn.kept_of_begin ih.committed hbegin, hall.2⟩
  | callIn c _ ih =>
    obtain ⟨hbackend, htables, hx⟩ := ih.at.call ih.backend c
    exact ih.replace hbackend (htables ▸ ih.committed) hx
  | commit _ ih =>
    exact ih.replace Ending.closes_commit.backend (ih.at.commit ih.committed)
      (ih.at.attempt _ .commit)
  | rollback _ ih =>
    refine ih.replace Ending.closes_rollback.backend ?_ (ih.at.attempt _ .rollback)
    rw [Txn.tables_rollback]
    exact ih.committed
  | mark _ ih => exact ih.replace rfl ih.committed ⟨ih.at.view, ih.at.condition⟩
  | sever _ ih => exact ih.replace rfl ih.committed ⟨ih.at.view, nofun⟩

/-- **At any time, whatever is read is read from one list of clusters and is what was written
    last.** -/
theorem reads (h : Chronicle db log xs) : db.Reads log xs where
  direct := h.kept.committed.reads db.backend db.traps (db.clock + 1)
  within x l hx hopen hlost := by
    have hxkept : x.Kept l := h.kept.transactions (x, l) hx
    have hrunning : x.condition = .running := by
      cases hcondition : x.condition with
      | running => rfl
      | aborted => exact absurd hcondition hxkept.condition
      | lost => exact absurd hcondition hlost
    have hask : (fun {α : Type} (c : Call α) => (x.call db c).1) =
        fun {α : Type} (c : Call α) => (x.perform db c).1 := by
      funext α c
      rw [Txn.call_of_open hopen hrunning]
    rw [hask]
    exact hxkept.view.reads db.backend db.traps _

end Chronicle

end Fleet.Store
