/-
  Fleet/Isolation.lean
  ====================
  **Isolation levels of transactions.**

  A level is named in words joined by hyphens.  In settings it may also be written with
  underscores, in either case and with blanks around it; an empty text leaves the level to
  the database.
-/
import Fleet.Text.Blank

namespace Fleet

open Fleet.Text

/-- How far a transaction is kept apart from others. -/
inductive Isolation where
  /-- As the database has it. -/
  | unset
  | readCommitted | repeatableRead | serializable
deriving DecidableEq, Repr

namespace Isolation

def all : List Isolation := [unset, readCommitted, repeatableRead, serializable]

def name : Isolation → String
  | unset => "default"
  | readCommitted => "read-committed"
  | repeatableRead => "repeatable-read"
  | serializable => "serializable"

def label : Isolation → String
  | unset => "Default"
  | readCommitted => "ReadCommitted"
  | repeatableRead => "RepeatableRead"
  | serializable => "Serializable"

/-- The words that ask a database for this level, if any are needed. -/
def sql? : Isolation → Option String
  | unset => none
  | readCommitted => some "READ COMMITTED"
  | repeatableRead => some "REPEATABLE READ"
  | serializable => some "SERIALIZABLE"

/-- A name without blanks around it, in lower case and with hyphens. -/
def normalize (s : String) : String :=
  String.ofList ((strip isBlank s.toList).map fun c => if c = '_' then '-' else c.toLower)

def ofText? (s : String) : Option Isolation :=
  let n := normalize s
  if n = "" then some unset else all.find? (·.name = n)

end Isolation

end Fleet
