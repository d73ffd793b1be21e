/-
  Fleet/Settings.lean
  ===================
  **Settings of the registry.**

  The settings are read from variables whose names share one stem.  Only the location of the
  database has to be given.  The variables are looked at in a fixed order and the first
  faulty one is reported.

  A list of service accounts that names nobody is no list at all.
-/
import Fleet.Duration
import Fleet.Isolation

namespace Fleet

open Fleet.Text

abbrev Environment := List (String × String)

def Environment.get? (env : Environment) (name : String) : Option String := env.lookup name

structure Settings where
  database : String
  maxConnections : Nat
  clusterFile : String
  timeout : Duration
  isolation : Isolation
  /-- Whether changes of the cluster file are followed. -/
  watch : Bool
  /-- The service accounts that may change clusters and links; without it everyone may. -/
  accounts : Option (List String)
deriving DecidableEq, Repr

namespace Settings

inductive Fault where
  | missing (name : String)
  | invalid (name : String) (rule : String)
deriving DecidableEq, Repr

def Fault.message : Fault → String
  | .missing v => "missing required environment variable: " ++ v
  | .invalid v rule => "invalid value for " ++ v ++ ": " ++ rule

/-- The name of a variable of the registry. -/
def key (name : String) : String := "CLUSTER_REGISTRY_" ++ name

/-- The names of the variables, without their stem. -/
def names : List String := [
  "DATABASE_URL", "CONFIG_FILE", "TRANSACTION_TIMEOUT_SECS", "ISOLATION_LEVEL", "MAX_CONNECTIONS",
  "WATCH_CONFIG", "SERVICE_ACCOUNTS"]

/-- The whole number of at most `bound` that a text stands for: digits, perhaps behind a
    plus sign. -/
def number? (bound : Nat) (s : String) : Option Nat :=
  let ds := match s.toList with
    | '+' :: r => r
    | r => r
  let n := ds.foldl (fun n c => 10 * n + (c.toNat - 48)) 0
  if ds.isEmpty || !ds.all Char.isDigit || bound < n then none else some n

/-- A whole number from 1 to `bound`, with a default for a variable that is not set. -/
def positive (env : Environment) (name rule : String) (bound default : Nat) : Except Fault Nat :=
  match env.get? (key name) with
  | none => .ok default
  | some s =>
    match number? bound s with
    | some (n + 1) => .ok (n + 1)
    | _ => .error (.invalid (key name) rule)

def defaultClusterFile : String := "clusters.conf.json"

/-- The names between the commas of a list. -/
def splitAccounts (s : String) : List String :=
  (((s.toList.splitOnP (· == ',')).map (strip isBlank)).filter (!·.isEmpty)).map String.ofList

/-- The settings that the variables give. -/
def ofEnvironment (env : Environment) : Except Fault Settings := do
  let database ←
    match env.get? (key "DATABASE_URL") with
    | some s => .ok s
    | none => .error (.missing (key "DATABASE_URL"))
  let seconds ← positive env "TRANSACTION_TIMEOUT_SECS" "must be a positive number of seconds"
    18446744073709551615 300
  let isolation ←
    match Isolation.ofText? ((env.get? (key "ISOLATION_LEVEL")).getD "") with
    | some l => .ok l
    | none =>
      .error (.invalid (key "ISOLATION_LEVEL")
        "must be default, read-committed, repeatable-read or serializable")
  let maxConnections ← positive env "MAX_CONNECTIONS" "must be a positive integer" 4294967295 10
  let accounts := ((env.get? (key "SERVICE_ACCOUNTS")).map splitAccounts).filter (!·.isEmpty)
  return {
    database, maxConnections, isolation, accounts
    clusterFile := (env.get? (key "CONFIG_FILE")).getD defaultClusterFile
    timeout := Duration.ofSecs seconds
    watch := ((env.get? (key "WATCH_CONFIG")).map fun v => v == "true" || v == "1").getD true }

end Settings

end Fleet
