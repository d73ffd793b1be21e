/-
  Fleet/Store/Fault.lean
  ======================
  **What can go wrong in a database.**

  A database refuses a request with a text of its own, under a code when it numbers its
  errors.  A connection can also be lost, and the location of a database can be misspelt, or
  name a file that no file can be called.
-/

namespace Fleet.Store

/-- Why a request to the database failed. -/
inductive Fault where
  | refused (code : Option Nat) (text : String)
  | disconnected
  /-- The name of the file has a NUL in it. -/
  | badName
  /-- The location of the database cannot be used. -/
  | badLocation (why : String)
  /-- The location of the database names a setting that there is not. -/
  | badSetting (why : String)
deriving DecidableEq, Repr

namespace Fault

/-- What the database, or the connection to it, had to say. -/
def detail : Fault → String
  | refused none text => text
  | refused (some n) text => "(code: " ++ toString n ++ ") " ++ text
  | disconnected => "expected to read 5 bytes, got 0 bytes at EOF"
  | badName => "filename passed to SQLite must not contain nul bytes"
  | badLocation why => why
  | badSetting why => "error with configuration: " ++ why

def message (f : Fault) : String :=
  (match f with
    | refused _ _ => "error returned from database: "
    | disconnected | badName => "error communicating with database: "
    | badLocation _ | badSetting _ => "error with configuration: ") ++ f.detail

/-- The words of the fault and of everything beneath it. -/
def chain (f : Fault) : List String :=
  f.message :: f.detail ::
    match f with
    | badSetting why => [why]
    | _ => []

end Fault

inductive Corruption where
  | badId (stored : String) (why : String)
  | badKind (url stored : String)
deriving DecidableEq, Repr

def Corruption.message : Corruption → String
  | .badId s why => "stored cluster_id '" ++ s ++ "' is not a UUID: " ++ why
  | .badKind url s => "stored cluster '" ++ url ++ "' has unknown type '" ++ s ++ "'"

end Fleet.Store
