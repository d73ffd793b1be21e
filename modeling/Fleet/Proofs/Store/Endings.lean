/-
  Fleet/Proofs/Store/Endings.lean
  ===============================
  **How transactions begin and end.**

  A transaction begins on what is committed, and it ends by a commit or a rollback (`Ending`).
  Whatever comes of an attempt to end it, the transaction is closed afterwards, its view is what
  it was, and what is committed is either what it was or that view (`Ending.closes`).
-/
import Fleet.Store.Database

namespace Fleet.Store

/-! ### Beginning -/

/-- What a database receives when a transaction is opened. -/
def Backend.opening (b : Backend) (level : Isolation) : List String :=
  "BEGIN" :: (if b.hasLevels then level.sql?.toList else []).map ("SET TRANSACTION ISOLATION LEVEL " ++ ·)

variable {db : Database} {x : Txn}

structure Txn.Begun (db : Database) (level : Isolation) (x : Txn) (db' : Database) : Prop where
  received : db'.received = db.received ++ db.backend.opening level
  tables : db'.tables = db.tables
  backend : db'.backend = db.backend
  view : x.view = db.tables
  isOpen : x.isClosed = false

theorem Txn.begun {level : Isolation} {db' : Database} (h : begin db level = (.ok x, db')) :
    Begun db level x db' := by
  unfold begin at h
  split at h
  · cases h
  · cases h
    exact ⟨rfl, rfl, rfl, rfl, rfl⟩

/-! ### Ending -/

inductive Ending where
  | commit
  | rollback
deriving DecidableEq, Repr

namespace Ending

def statement : Ending → String
  | commit => "COMMIT"
  | rollback => "ROLLBACK"

def attempt (db : Database) (x : Txn) : Ending → Except Error Unit × Database × Txn
  | commit => x.commit db
  | rollback => x.rollback db

/-- What an attempt to end a transaction leaves behind. -/
structure Closes (db : Database) (x : Txn) (p : Database × Txn) : Prop where
  closed : p.2.isClosed = true
  view : p.2.view = x.view
  backend : p.1.backend = db.backend
  tables : p.1.tables = db.tables ∨ p.1.tables = x.view

theorem closes_commit : Closes db x (x.commit db).2 := by
  unfold Txn.commit
  split
  · rename_i hclosed
    exact ⟨hclosed, rfl, rfl, .inl rfl⟩
  · have hended : Txn.isClosed { x with ended := true } = true := Bool.or_true _
    cases x.condition with
    | lost | aborted => exact ⟨hended, rfl, rfl, .inl rfl⟩
    | running =>
      cases x.doomed with
      | true => exact ⟨hended, rfl, rfl, .inl rfl⟩
      -- the only commit that is kept
      | false => exact ⟨hended, rfl, rfl, .inr rfl⟩

theorem closes_rollback : Closes db x (x.rollback db).2 := by
  unfold Txn.rollback
  split
  · rename_i hended
    exact ⟨by rw [Txn.isClosed, hended, Bool.or_true], rfl, rfl, .inl rfl⟩
  · have hended : Txn.isClosed { x with ended := true } = true := Bool.or_true _
    cases x.condition <;> exact ⟨hended, rfl, rfl, .inl rfl⟩

/-- **Whatever comes of an attempt to end a transaction, it is closed.** -/
theorem closes (e : Ending) : Closes db x (e.attempt db x).2 := by
  cases e with
  | commit => exact closes_commit
  | rollback => exact closes_rollback

end Ending

namespace Txn

theorem ended_of_isClosed (h : x.isClosed = false) : x.ended = false :=
  (Bool.or_eq_false_iff.1 h).2

/-- What a rollback sends to the database: nothing if the connection is gone. -/
theorem received_rollback (h : x.ended = false) :
    (x.rollback db).2.1.received =
      db.received ++ if x.condition = .lost then [] else [Ending.rollback.statement] := by
  cases hx : x.condition <;> simp [rollback, h, hx, Database.receive, Ending.statement]

theorem received_commit (h : x.isClosed = false) :
    (x.commit db).2.1.received =
      db.received ++ if x.condition = .lost then [] else [Ending.commit.statement] := by
  cases hx : x.condition with
  | running => cases hd : x.doomed <;> simp [commit, h, hx, hd, Database.receive, Ending.statement]
  | aborted => simp [commit, h, hx, Database.receive, Ending.statement]
  | lost => simp [commit, h, hx]

theorem received_attempt (e : Ending) (h : x.isClosed = false) :
    (e.attempt db x).2.1.received =
      db.received ++ if x.condition = .lost then [] else [e.statement] := by
  cases e with
  | commit => exact received_commit h
  | rollback => exact received_rollback (ended_of_isClosed h)

/-- The commit of an open transaction fails with an error of its own. -/
theorem commit_error {e : Error} (h : x.isClosed = false) (he : (x.commit db).1 = .error e) :
    ∃ f, e = .commitFailed f := by
  cases hx : x.condition with
  | lost => simp [commit, h, hx] at he; exact ⟨_, he.symm⟩
  | aborted => simp [commit, h, hx] at he
  | running =>
    cases hd : x.doomed with
    | true => simp [commit, h, hx, hd] at he; exact ⟨_, he.symm⟩
    | false => simp [commit, h, hx, hd] at he

end Txn

end Fleet.Store
