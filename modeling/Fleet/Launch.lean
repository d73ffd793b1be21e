/-
  Fleet/Launch.lean
  =================
  **Launching the registry as a program.**

  The program takes its settings from the variables around it and from the file `.env`, opens
  its database, and starts an instance.  The first of these that fails ends it, with a report
  of the error and of everything beneath it.
-/
import Fleet.EnvFile
import Fleet.Instance
import Fleet.Location

namespace Fleet.Launch

open Fleet.Config Fleet.Store

inductive Fault where
  | settings (why : Settings.Fault)
  | connection (why : Error)
  | plan (why : Plan.Fault)

/-- The fault and everything beneath it, in words. -/
def Fault.chain : Fault → List String
  | settings why => [why.message]
  | connection why => why.chain
  | plan why => why.chain

/-- A text whose further lines are set in by as many blanks. -/
def indent (width : Nat) (s : String) : String :=
  String.ofList (s.toList.flatMap fun c =>
    if c = '\n' then '\n' :: List.replicate width ' ' else [c])

/-- A number in a column of five. -/
def column (n : Nat) : String :=
  let s := toString n
  String.ofList (List.replicate (5 - s.length) ' ') ++ s

/-- The report of an error: what went wrong, and the causes beneath it, numbered if there are
    several. -/
def report : List String → String
  | [] => "Error: \n"
  | [e] => "Error: " ++ e ++ "\n"
  | [e, cause] => "Error: " ++ e ++ "\n\nCaused by:\n    " ++ indent 4 cause ++ "\n"
  | e :: causes =>
    "Error: " ++ e ++ "\n\nCaused by:\n" ++
      "".intercalate (causes.zipIdx.map fun (c, n) => column n ++ ": " ++ indent 7 c ++ "\n")

structure Surroundings where
  environment : Environment
  file : String → File
  isDirectory : String → Bool
  /-- What is found in the place of a database file. -/
  medium : String → Medium
  /-- The identifiers that will be handed out. -/
  ids : Nat → Uuid

/-- The variables around the program, with those of the file `.env`. -/
def Surroundings.variables (s : Surroundings) : Environment :=
  match s.file ".env" with
  | .text t => EnvFile.load s.environment t
  | _ => s.environment

/-- The settings, and where the database is. -/
def Surroundings.prepare (s : Surroundings) : Except Fault (Settings × Location) := do
  let settings ← (Settings.ofEnvironment s.variables).mapError .settings
  let location ← (Location.parse settings.database).mapError .connection
  return (settings, location)

/-- The settings, and the database with its location. -/
def Surroundings.resolve (s : Surroundings) : Except Fault (Settings × Location × Database) := do
  let (settings, location) ← s.prepare
  let db ← (location.connect s.isDirectory s.medium).mapError .connection
  return (settings, location, db)

structure Launched where
  /-- The running instance, or why there is none. -/
  outcome : Except Fault Instance
  /-- Where the database is, and the registry on it, once it has been opened. -/
  opened : Option (Location × Registry)

def start (s : Surroundings) : Launched :=
  match s.resolve with
  | .error why => ⟨.error why, none⟩
  | .ok (settings, location, db) =>
    let plan := ({} : Plan).withSettings settings
    match plan.check (some ⟨db, s.ids, 0⟩) with
    | .error why => ⟨.error (.plan why), some (location, ⟨db, s.ids, 0⟩)⟩
    | .ok r =>
      let (outcome, r) := plan.start (s.file plan.file) r
      ⟨outcome.mapError .plan, some (location, r)⟩

end Fleet.Launch
