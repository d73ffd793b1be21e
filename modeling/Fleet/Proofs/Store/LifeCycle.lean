/-
  Fleet/Proofs/Store/LifeCycle.lean
  =================================
  **The life of a transaction.**

  A transaction keeps two marks of its end: that it is marked as closed, and that it has ended.  A
  commit and a rollback leave both behind in effect, but to mark a transaction leaves it in between.
  There it takes no call and no commit any more, and still takes one rollback.

  Both marks can be told from what has been asked of the transaction before (`Stage`): it is closed
  if it was ever asked to end or to be marked, and it has ended if it was ever asked to roll back, or
  to commit while it was open.  So whatever is asked, in whatever order, only one attempt to end it
  ever has an effect, and the committed tables change by nothing but a commit that goes through
  (`Lived.lifeCycle`).
-/
import Fleet.Proofs.Context.Execution
import Fleet.Proofs.Store.Endings

namespace Fleet.Store.Txn

/-! ### What is asked of a transaction -/

/-- What can be asked of a transaction, by the type of the answer. -/
inductive Ask : Type → Type 1 where
  | call (c : Call α) : Ask α
  | finish (e : Ending) : Ask Unit
  | mark : Ask Unit
  | isClosed : Ask Bool

def Ask.perform (db : Database) (x : Txn) : Ask α → Except Error α × Database × Txn
  | call c => x.call db c
  | finish e => e.attempt db x
  | mark => (.ok (), db, x.markClosed)
  | isClosed => (.ok x.isClosed, db, x)

/-- Something that is asked of a transaction, with the database at that time. -/
structure Turn : Type 1 where
  {α : Type}
  ask : Ask α
  database : Database
  txn : Txn

/-- The answer of a transaction that is closed. -/
def isRefusal : Except Error α → Bool
  | .error .closed => true
  | _ => false

namespace Turn

def after (t : Turn) : Database × Txn := (t.ask.perform t.database t.txn).2

/-- An attempt to end the transaction which is not refused. -/
def ends : Turn → Bool
  | ⟨.finish e, db, x⟩ => !isRefusal (e.attempt db x).1
  | _ => false

/-- A commit that goes through. -/
def commits : Turn → Bool
  | ⟨.finish .commit, db, x⟩ => (x.commit db).1.isOk
  | _ => false

def isRollback : Turn → Bool
  | ⟨.finish .rollback, _, _⟩ => true
  | _ => false

/-- A rollback, or a commit which is not refused. -/
def finishes (t : Turn) : Bool := t.isRollback || t.ends

/-- Whatever is meant to leave the transaction closed. -/
def closes : Turn → Bool
  | ⟨.finish _, _, _⟩ | ⟨.mark, _, _⟩ => true
  | _ => false

end Turn

/-- What has been asked of a transaction, beginning with a database and the transaction on it, and
    what has become of the two. -/
inductive Lived (db₀ : Database) (x₀ : Txn) : List Turn → Database → Txn → Prop where
  | start : Lived db₀ x₀ [] db₀ x₀
  | step {ts : List Turn} {db : Database} {x : Txn} (ask : Ask α) : Lived db₀ x₀ ts db x →
      Lived db₀ x₀ (ts ++ [⟨ask, db, x⟩]) (ask.perform db x).2.1 (ask.perform db x).2.2

variable {db db₀ : Database} {x x₀ : Txn} {ts pre mid post : List Turn} {t : Turn}

/-- Everything that is asked finds the database and the transaction as the turns before left them. -/
theorem Lived.split (h : Lived db₀ x₀ ts db x) (hts : ts = pre ++ t :: post) :
    Lived db₀ x₀ pre t.database t.txn := by
  induction h generalizing post with
  | start => simp at hts
  | @step _ ts db x ask hts' ih =>
    rcases List.eq_nil_or_concat post with rfl | ⟨post, last, rfl⟩
    · obtain ⟨rfl, hlast⟩ := List.append_inj' hts rfl
      cases hlast
      exact hts'
    · have hshorter : ts ++ [⟨ask, db, x⟩] = (pre ++ t :: post) ++ [last] := by simpa using hts
      exact ih (List.append_inj' hshorter rfl).1

/-! ### One turn -/

theorem call_of_open (hopen : x.isClosed = false) (hrunning : x.condition = .running) (c : Call α) :
    x.call db c = x.perform db c := by
  simp [call, hopen, hrunning]

theorem call_of_closed (hclosed : x.isClosed = true) (c : Call α) :
    x.call db c = (.error .closed, db, x) := by
  simp [call, hclosed]

theorem commit_of_closed (hclosed : x.isClosed = true) : x.commit db = (.error .closed, db, x) := by
  simp [commit, hclosed]

theorem rollback_of_ended (hended : x.ended = true) : x.rollback db = (.error .closed, db, x) := by
  simp [rollback, hended]

theorem rollback_of_running (hended : x.ended = false) (hrunning : x.condition = .running) :
    x.rollback db = (.ok (), db.receive ["ROLLBACK"], { x with ended := true }) := by
  simp [rollback, hended, hrunning]

theorem commit_of_running (hopen : x.isClosed = false) (hrunning : x.condition = .running) :
    isRefusal (x.commit db).1 = false ∧ (x.commit db).2.2 = { x with ended := true } := by
  unfold commit
  rw [if_neg (by simp [hopen]), hrunning]
  cases x.doomed <;> exact ⟨rfl, rfl⟩

/-- A commit changes the committed tables if it goes through. -/
theorem tables_of_commit (hrunning : x.condition = .running) :
    (x.commit db).2.1.tables = if (x.commit db).1.isOk then x.view else db.tables := by
  cases hreply : (x.commit db).1 with
  | ok u => simp [(tables_of_commit_ok hreply).2, hrunning, Except.isOk, Except.toBool]
  | error e => simp [tables_of_commit_error hreply, Except.isOk, Except.toBool]

/-- **No turn changes the committed tables but a commit that goes through.** -/
theorem Turn.tables_after (hrunning : t.txn.condition = .running) :
    t.after.1.tables = if t.commits then t.txn.view else t.database.tables := by
  obtain ⟨ask, db, x⟩ := t
  cases ask with
  | call c =>
    change (x.call db c).2.1.tables = db.tables
    cases hclosed : x.isClosed with
    | true => rw [call_of_closed hclosed]
    | false =>
      rw [call_of_open hclosed hrunning]
      rfl
  | finish e =>
    cases e with
    | commit => exact tables_of_commit hrunning
    | rollback => exact tables_rollback
  | mark => rfl
  | isClosed => rfl

/-! ### All turns -/

/-- How far a transaction has got, as it can be told from what has been asked of it. -/
structure Stage (ts : List Turn) (db : Database) (x : Txn) : Prop where
  backend : db.backend = .sqlite
  running : x.condition = .running
  closed : x.isClosed = ts.any Turn.closes
  ended : x.ended = ts.any Turn.finishes
  endings : ts.countP Turn.ends = x.ended.toNat

theorem stage_begin {level : Isolation} (hdb : db₀.backend = .sqlite)
    (h : begin db₀ level = (.ok x, db)) : Stage [] db x := by
  unfold begin at h
  split at h
  · cases h
  · cases h
    exact ⟨hdb, rfl, rfl, rfl, rfl⟩

/-- What a turn has to do to a transaction to take it to the next stage. -/
theorem Stage.next (h : Stage ts db x) {db' : Database} {x' : Txn}
    (hbackend : db'.backend = db.backend) (hrunning : x'.condition = .running)
    (hclosed : x'.isClosed = (x.isClosed || t.closes)) (hended : x'.ended = (x.ended || t.finishes))
    (hends : x'.ended.toNat = x.ended.toNat + t.ends.toNat) : Stage (ts ++ [t]) db' x' := by
  constructor
  · exact hbackend.trans h.backend
  · exact hrunning
  · simp [hclosed, h.closed]
  · simp [hended, h.ended]
  · rw [hends, List.countP_append, h.endings, List.countP_singleton]
    cases t.ends <;> rfl

/-- An attempt that takes effect leaves the transaction ended. -/
theorem Stage.finish (h : Stage ts db x) {e : Ending} (hended : x.ended = false)
    (hends : (⟨.finish e, db, x⟩ : Turn).ends = true) {db' : Database}
    (hbackend : db'.backend = db.backend) :
    Stage (ts ++ [⟨.finish e, db, x⟩]) db' { x with ended := true } := by
  refine h.next hbackend h.running ?_ ?_ ?_
  · simp [Txn.isClosed, Turn.closes]
  · simp [Turn.finishes, hends]
  · simp [hended, hends]

/-- **Every turn takes a transaction to its next stage.** -/
theorem Stage.step (h : Stage ts db x) (ask : Ask α) :
    Stage (ts ++ [⟨ask, db, x⟩]) (ask.perform db x).2.1 (ask.perform db x).2.2 := by
  cases ask with
  | call c =>
    cases hclosed : x.isClosed with
    | true =>
      simp only [Ask.perform, call_of_closed hclosed]
      exact h.next rfl h.running (Bool.or_false _).symm (Bool.or_false _).symm rfl
    | false =>
      simp only [Ask.perform, call_of_open hclosed h.running]
      -- no statement aborts a transaction on this backend
      have hrunning : (x.perform db c).2.2.condition = .running := by
        simp [perform, h.backend, Backend.sqlite]
      exact h.next rfl hrunning (Bool.or_false _).symm (Bool.or_false _).symm rfl
  | finish e =>
    cases e with
    | commit =>
      cases hclosed : x.isClosed with
      | true =>
        simp only [Ask.perform, Ending.attempt, commit_of_closed hclosed]
        have hends : (⟨.finish .commit, db, x⟩ : Turn).ends = false := by
          simp [Turn.ends, Ending.attempt, commit_of_closed hclosed, isRefusal]
        refine h.next rfl h.running ?_ ?_ ?_
        · simp [hclosed]
        · simp [Turn.finishes, Turn.isRollback, hends]
        · simp [hends]
      | false =>
        obtain ⟨hreply, hafter⟩ : isRefusal (x.commit db).1 = false ∧ _ :=
          commit_of_running hclosed h.running
        have hends : (⟨.finish .commit, db, x⟩ : Turn).ends = true := by
          simp [Turn.ends, Ending.attempt, hreply]
        simp only [Ask.perform, Ending.attempt, hafter]
        exact h.finish (ended_of_isClosed hclosed) hends (Ending.closes .commit).backend
    | rollback =>
      cases hended : x.ended with
      | true =>
        simp only [Ask.perform, Ending.attempt, rollback_of_ended hended]
        have hends : (⟨.finish .rollback, db, x⟩ : Turn).ends = false := by
          simp [Turn.ends, Ending.attempt, rollback_of_ended hended, isRefusal]
        refine h.next rfl h.running ?_ ?_ ?_
        · simp [Txn.isClosed, hended]
        · simp [hended]
        · simp [hends]
      | false =>
        have hends : (⟨.finish .rollback, db, x⟩ : Turn).ends = true := by
          simp [Turn.ends, Ending.attempt, rollback_of_running hended h.running, isRefusal]
        simp only [Ask.perform, Ending.attempt, rollback_of_running hended h.running]
        exact h.finish hended hends rfl
  | mark =>
    refine h.next rfl h.running ?_ ?_ ?_
    · simp [Ask.perform, markClosed, Txn.isClosed, Turn.closes]
    · exact (Bool.or_false _).symm
    · rfl
  | isClosed => exact h.next rfl h.running (Bool.or_false _).symm (Bool.or_false _).symm rfl

theorem Lived.stage (h : Lived db₀ x₀ ts db x) (h₀ : Stage [] db₀ x₀) : Stage ts db x := by
  induction h with
  | start => exact h₀
  | step ask _ ih => exact ih.step ask

/-- Every turn finds the transaction at the stage that the turns before it have brought. -/
theorem Lived.stage_of_eq (h : Lived db₀ x₀ ts db x) (h₀ : Stage [] db₀ x₀)
    (hts : ts = pre ++ t :: post) : Stage pre t.database t.txn :=
  (h.split hts).stage h₀

theorem Lived.running_of_mem (h : Lived db₀ x₀ ts db x) (h₀ : Stage [] db₀ x₀) (ht : t ∈ ts) :
    t.txn.condition = .running := by
  obtain ⟨pre, post, hts⟩ := List.append_of_mem ht
  exact (h.stage_of_eq h₀ hts).running

theorem Turn.ends_of_commits (h : t.commits = true) : t.ends = true := by
  obtain ⟨ask, db, x⟩ := t
  cases ask with
  | finish e =>
    cases e with
    | commit =>
      change (x.commit db).1.isOk = true at h
      change (!isRefusal (x.commit db).1) = true
      cases hreply : (x.commit db).1 with
      | ok u => rfl
      | error e => simp [hreply, Except.isOk, Except.toBool] at h
    | rollback => cases h
  | call c => cases h
  | mark => cases h
  | isClosed => cases h

/-- Of a closed transaction only a rollback asks for anything. -/
theorem Turn.finishes_of_closed (h : t.txn.isClosed = true) : t.finishes = t.isRollback := by
  obtain ⟨ask, db, x⟩ := t
  cases ask with
  | finish e =>
    cases e with
    | commit =>
      change (!isRefusal (x.commit db).1) = false
      rw [commit_of_closed h]
      rfl
    | rollback => rfl
  | call c => rfl
  | mark => rfl
  | isClosed => rfl

/-- Only one attempt takes effect, and so only one commit goes through. -/
theorem Stage.commits_eq_false (h : Stage (ts ++ [t]) db x) (hmem : ∃ t ∈ ts, t.commits = true) :
    t.commits = false := by
  by_contra hcommits
  have hends : t.ends = true := Turn.ends_of_commits (by simpa using hcommits)
  have hbefore : 0 < ts.countP Turn.ends := by
    obtain ⟨t', ht', hcommits'⟩ := hmem
    exact List.countP_pos_iff.2 ⟨t', ht', Turn.ends_of_commits hcommits'⟩
  have hall : ts.countP Turn.ends + 1 = x.ended.toNat := by
    simpa [List.countP_append, hends] using h.endings
  have := Bool.toNat_le x.ended
  omega

/-- In the end the committed tables are the view that was committed, if any. -/
theorem Lived.tables (h : Lived db₀ x₀ ts db x) (h₀ : Stage [] db₀ x₀) :
    db.tables = ((ts.find? Turn.commits).map (·.txn.view)).getD db₀.tables := by
  induction h with
  | start => rfl
  | @step _ ts db x ask hlived ih =>
    have hstage := hlived.stage h₀
    have hafter := Turn.tables_after (t := ⟨ask, db, x⟩) hstage.running
    change (ask.perform db x).2.1.tables = _ at hafter
    rw [hafter, List.find?_append]
    cases hfind : ts.find? Turn.commits with
    | some t' =>
      have hcommits := (hstage.step ask).commits_eq_false
        ⟨t', List.mem_of_find?_eq_some hfind, List.find?_some hfind⟩
      simpa [hcommits, hfind] using ih
    | none =>
      cases hcommits : (⟨ask, db, x⟩ : Turn).commits with
      | true => simp [hcommits]
      | false => simpa [hcommits, hfind] using ih

/-- A transaction that was marked while it was open takes the first rollback after that. -/
theorem Lived.rollback_of_marked (h : Lived db₀ x₀ ts db x) (h₀ : Stage [] db₀ x₀) {db' : Database}
    {x' : Txn} (hts : ts = pre ++ ⟨.mark, db', x'⟩ :: (mid ++ t :: post))
    (hopen : x'.isClosed = false) :
    (t.txn.rollback t.database).1 =
      if mid.any Turn.isRollback then .error .closed else .ok () := by
  have hbefore : pre.any Turn.finishes = false :=
    (h.stage_of_eq h₀ hts).ended ▸ ended_of_isClosed hopen
  -- the transaction is closed all along, so nothing but a rollback can have ended it
  have hmid : mid.any Turn.finishes = mid.any Turn.isRollback := by
    have hsame : ∀ t' ∈ mid, t'.finishes = t'.isRollback := by
      intro t' ht'
      obtain ⟨left, right, rfl⟩ := List.append_of_mem ht'
      have hsplit : ts = (pre ++ ⟨.mark, db', x'⟩ :: left) ++ t' :: (right ++ t :: post) := by
        simp [hts]
      have hclosed := (h.stage_of_eq h₀ hsplit).closed
      exact Turn.finishes_of_closed (hclosed.trans (by simp [Turn.closes]))
    rw [Bool.eq_iff_iff, List.any_eq_true, List.any_eq_true]
    exact exists_congr fun t' => and_congr_right fun ht' => by rw [hsame t' ht']
  have hsplit : ts = (pre ++ ⟨.mark, db', x'⟩ :: mid) ++ t :: post := by simp [hts]
  have hstage := h.stage_of_eq h₀ hsplit
  have hended : t.txn.ended = mid.any Turn.isRollback := by
    rw [hstage.ended, List.any_append, hbefore, List.any_cons, hmid]
    rfl
  cases hrolled : mid.any Turn.isRollback with
  | true => simp [rollback_of_ended (hended.trans hrolled)]
  | false => simp [rollback_of_running (hended.trans hrolled) hstage.running]

/-! ### The life cycle -/

/-- Whatever was asked of a transaction, when it has come to this. -/
structure LifeCycle (db₀ : Database) (ts : List Turn) (db : Database) (x : Txn) : Prop where
  /-- At most one attempt to end the transaction takes effect. -/
  endings : ts.countP Turn.ends ≤ 1
  /-- The committed tables change by a commit that goes through, which takes effect, and by nothing
      else.  Then they are the view of the transaction. -/
  committed : ∀ t ∈ ts, t.after.1.tables = if t.commits then t.txn.view else t.database.tables
  commits : ∀ t ∈ ts, t.commits = true → t.ends = true
  /-- So in the end they are the view that was committed, or else what they were at the beginning. -/
  tables : db.tables = ((ts.find? Turn.commits).map (·.txn.view)).getD db₀.tables
  /-- It is closed exactly if it was asked to end or to be marked. -/
  isClosed : x.isClosed = ts.any Turn.closes
  told : ∀ pre post db x, ts = pre ++ ⟨.isClosed, db, x⟩ :: post →
    (Ask.isClosed.perform db x).1 = .ok (pre.any Turn.closes)
  /-- From then on it refuses every call and every commit. -/
  refused : ∀ pre post db x, pre.any Turn.closes = true →
    (∀ {α : Type} (c : Call α), ts = pre ++ ⟨.call c, db, x⟩ :: post →
      x.call db c = (.error .closed, db, x)) ∧
    (ts = pre ++ ⟨.finish .commit, db, x⟩ :: post → x.commit db = (.error .closed, db, x))
  /-- Until then it takes every call, on its view. -/
  taken : ∀ pre post db x, ∀ {α : Type} (c : Call α), ts = pre ++ ⟨.call c, db, x⟩ :: post →
    pre.any Turn.closes = false →
      (x.call db c).1 = (c.perform db.backend db.traps (db.clock + 1) x.view).reply ∧
        (x.call db c).2.2.view = (c.perform db.backend db.traps (db.clock + 1) x.view).tables
  /-- After it was marked while it was open, one rollback still goes through. -/
  marked : ∀ pre mid post db x db' x',
    ts = pre ++ ⟨.mark, db, x⟩ :: (mid ++ ⟨.finish .rollback, db', x'⟩ :: post) →
      x.isClosed = false →
        (x'.rollback db').1 = if mid.any Turn.isRollback then .error .closed else .ok ()
  /-- A commit that fails in the database leaves the committed tables as they are, and the
      transaction closed. -/
  failed : ∀ db x e, ⟨.finish .commit, db, x⟩ ∈ ts → (x.commit db).1 = .error e → e ≠ .closed →
    (∃ f, e = .commitFailed f) ∧ (x.commit db).2.1.tables = db.tables ∧
      (x.commit db).2.2.isClosed = true

/-- **A transaction ends once.**  Whatever is asked of it, in whatever order, at most one commit or
    rollback takes effect, and only a commit that goes through changes the committed tables. -/
theorem Lived.lifeCycle {level : Isolation} {db₁ : Database} (hbackend : db₀.backend = .sqlite)
    (hbegin : begin db₀ level = (.ok x₀, db₁)) (h : Lived db₁ x₀ ts db x) :
    LifeCycle db₁ ts db x := by
  have h₀ : Stage [] db₁ x₀ := stage_begin hbackend hbegin
  have hstage : Stage ts db x := h.stage h₀
  constructor
  case endings => exact hstage.endings ▸ Bool.toNat_le _
  case committed => exact fun t ht => Turn.tables_after (h.running_of_mem h₀ ht)
  case commits => exact fun t _ => Turn.ends_of_commits
  case tables => exact h.tables h₀
  case isClosed => exact hstage.closed
  case told =>
    intro pre post db x hts
    exact congrArg Except.ok (h.stage_of_eq h₀ hts).closed
  case refused =>
    intro pre post db x hcloses
    constructor
    · intro _ c hts
      exact call_of_closed ((h.stage_of_eq h₀ hts).closed.trans hcloses) c
    · intro hts
      exact commit_of_closed ((h.stage_of_eq h₀ hts).closed.trans hcloses)
  case taken =>
    intro pre post db x _ c hts hcloses
    have hturn := h.stage_of_eq h₀ hts
    have hclock : db.backend.clockStands = false := by
      rw [hturn.backend]
      rfl
    rw [call_of_open (hturn.closed.trans hcloses) hturn.running]
    simp [perform, hclock]
  case marked => exact fun pre mid post db x db' x' hts => h.rollback_of_marked h₀ hts
  case failed =>
    intro db x e _ he hrefusal
    have hopen : x.isClosed = false := by
      by_contra hclosed
      rw [commit_of_closed (by simpa using hclosed)] at he
      exact hrefusal (Except.error.inj he).symm
    exact ⟨commit_error hopen he, tables_of_commit_error he, (Ending.closes .commit).closed⟩

/-- A fresh transaction on an empty database. -/
def fresh : Txn := { view := Tables.empty, began := 1 }

/-- A cluster is created, the transaction is marked, and only the first rollback goes through. -/
theorem fresh_lifeCycle :
    ∃ db₁ ts db x, begin (.create .sqlite) .unset = (.ok fresh, db₁) ∧
      Lived db₁ fresh ts db x ∧ LifeCycle db₁ ts db x ∧
      ts.map Turn.ends = [false, false, false, false, true, false, false] ∧
      ts.map Turn.closes = [false, true, false, true, true, true, false] ∧
      x.view.rows.map (·.url) = ["http://[::1]"] ∧ db.tables.rows = [] := by
  have hbegin : begin (.create .sqlite) .unset = (.ok fresh, _) := rfl
  have hstart : Lived (begin (.create .sqlite) .unset).2 fresh [] _ _ := .start
  have h := hstart.step (.call (.create (Context.bare "http://[::1]"))) |>.step .mark
    |>.step (.call (.list none)) |>.step (.finish .commit) |>.step (.finish .rollback)
    |>.step (.finish .rollback) |>.step .isClosed
  exact ⟨_, _, _, _, hbegin, h, h.lifeCycle rfl hbegin, by decide, by decide, by decide, by decide⟩

end Fleet.Store.Txn
