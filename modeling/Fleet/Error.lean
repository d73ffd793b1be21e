/-
  Fleet/Error.lean
  ================
  **Errors of the registry.**

  An error can be put into a context, which says what was being done.  The context changes
  neither its category nor its root.  The chain of an error lists it together with everything
  beneath it, from the outside in.
-/
import Fleet.Config.Issue
import Fleet.Settings
import Fleet.Store.Fault

namespace Fleet

inductive Entity where
  | cluster
  /-- The link of an identity to a cluster. -/
  | link
deriving DecidableEq, Repr

def Entity.name : Entity → String
  | .cluster => "cluster"
  | .link => "identity cluster"

inductive Error where
  | badParameter (field message : String)
  | notFound (entity : Entity) (key : String)
  | alreadyExists (entity : Entity) (key : String)
  | unauthorized (message : String)
  /-- The unit of work took longer than this. -/
  | timedOut (limit : Duration)
  | closed
  | panicked (message : String)
  | commitFailed (why : Store.Fault)
  | database (why : Store.Fault)
  | unprepared (why : Store.Fault)
  | corrupt (why : Store.Corruption)
  | clusterFile (why : Config.Fault)
  | settings (why : Settings.Fault)
  | other (message : String)
  | within (context : String) (cause : Error)

namespace Error

def message : Error → String
  | badParameter f m => "Bad parameter '" ++ f ++ "': " ++ m
  | notFound e k => e.name ++ " not found: " ++ k
  | alreadyExists e k => e.name ++ " already exists: " ++ k
  | unauthorized m => "Unauthorized: " ++ m
  | timedOut d => "Transaction timeout: unit of work exceeded " ++ d.render
  | closed => "Transaction is closed"
  | panicked m => "Unit of work panicked: " ++ m
  | commitFailed why => "Commit failed: " ++ why.message
  | database why => "Database error: " ++ why.message
  | unprepared why => "Migration error: while executing migrations: " ++ why.message
  | corrupt why => why.message
  | clusterFile why => "Cluster configuration error: " ++ why.message
  | settings why => "Configuration error: " ++ why.message
  | other m => m
  | within c e => c ++ ": " ++ e.message

inductive Category where
  | badParameter | notFound | unauthorized | conflict | internal | configuration
deriving DecidableEq, Repr

def category : Error → Category
  | badParameter _ _ => .badParameter
  | notFound _ _ => .notFound
  | alreadyExists _ _ => .conflict
  | unauthorized _ => .unauthorized
  | clusterFile _ | settings _ => .configuration
  | within _ e => e.category
  | timedOut _ | closed | panicked _ | commitFailed _ | database _ | unprepared _ | corrupt _ | other _ =>
    .internal

def root : Error → Error
  | within _ e => e.root
  | e => e

/-- The words of the error and of everything beneath it. -/
def chain : Error → List String
  | within c e => (within c e).message :: e.chain
  | commitFailed why => (commitFailed why).message :: why.chain
  | database why => (database why).message :: why.chain
  | unprepared why =>
    (unprepared why).message :: ("while executing migrations: " ++ why.message) :: why.chain
  | clusterFile why => (clusterFile why).message :: why.message :: why.cause?.toList
  | settings why => [(settings why).message, why.message]
  | e => [e.message]

end Error

/-- The isolation level that a text names. -/
def Isolation.parse (s : String) : Except Error Isolation :=
  match ofText? s with
  | some l => .ok l
  | none =>
    .error (.badParameter "isolation-level" ("unknown isolation level '" ++ normalize s ++ "'"))

end Fleet
