/-
  Fleet/Main.lean
  ===============
  **The program.**

  It launches the registry on the variables, the files and the database around it, follows the
  cluster file while it runs, and ends when its input does.  A database in a file is kept as
  an archive.
-/
import Fleet.Json.Parser
import Fleet.Json.Printer
import Fleet.Launch
import Fleet.Store.Archive

namespace Fleet

open Fleet.Config Fleet.Store

def lookAt (path : String) : IO File := do
  try
    let bytes ← IO.FS.readBinFile path
    return match String.fromUTF8? bytes with
      | some s => .text s
      | none => .bytes
  catch
    | .noFileOrDirectory .. => return .absent
    | _ => return .directory

/-- Whether there is a directory at a path. -/
def hasDirectory (path : String) : IO Bool := do
  try return ← (← IO.FS.realPath path).isDir
  catch _ => return false

/-- The variables around the program that matter to it. -/
def lookAround (envFile : File) : IO Environment := do
  let names := Settings.names.map Settings.key ++
    match envFile with
    | .text s => EnvFile.mentioned s
    | _ => []
  names.filterMapM fun n => do return (← IO.getEnv n).map fun v => (n, v)

/-- What is found in the place of a database file. -/
def restore (path : String) : IO Medium := do
  match ← lookAt path with
  | .text "" => return .empty
  | .text s =>
    return match (Json.parse s).toOption.bind (Database.ofJson? .sqlite) with
      | some db => .holding db
      | none => .foreign
  | .bytes => return .foreign
  | _ => return .absent

/-- Writes the archive of the registry to its location. -/
def preserve (location : Location) (r : Registry) : IO Unit :=
  match location with
  | .file path .writable => IO.FS.writeFile path r.database.toJson.render
  | _ => pure ()

def randomId : IO Uuid := do
  let bytes ← IO.getRandomBytes 16
  let marked := bytes.toList.zipIdx.map fun (b, i) =>
    if i = 6 then b.toNat % 16 + 64 else if i = 8 then b.toNat % 64 + 128 else b.toNat
  return ⟨BitVec.ofNat 128 (marked.foldl (fun n b => n * 256 + b) 0)⟩

/-- Follows the cluster file until the input ends. -/
partial def follow (ended : Task (Except IO.Error String)) (location : Location) (seen : File)
    (i : Instance) (r : Registry) : IO Unit := do
  if ← IO.hasFinished ended then return
  IO.sleep 100
  let file ← lookAt i.source.path
  if file = seen then follow ended location seen i r
  else
    let what := if file = .absent then Watch.Change.removed else .modified
    let (i, r) := (i.notice (.change what [Plan.fileName i.source.path])).settle file r
    preserve location r
    follow ended location file i r

/-- Runs the program and gives its exit code. -/
def program : IO UInt32 := do
  let envFile ← lookAt ".env"
  let environment ← lookAround envFile
  let seed ← randomId
  let bare : Launch.Surroundings := {
    environment
    file := fun path => if path = ".env" then envFile else .absent
    isDirectory := fun _ => false
    medium := fun _ => .absent
    ids := fun n => ⟨seed.bits + BitVec.ofNat 128 n⟩ }
  let mut clusterFile := File.absent
  let mut medium := Medium.absent
  let mut directories : List String := []
  match bare.prepare with
  | .error _ => pure ()
  | .ok (settings, location) =>
    clusterFile ← lookAt settings.clusterFile
    match location with
    | .file path _ =>
      medium ← restore path
      directories ← [path, Location.directory path].filterM hasDirectory
    | _ => pure ()
  let found := (clusterFile, medium, directories)
  let launched := Launch.start { bare with
    file := fun path => if path = ".env" then envFile else found.1
    isDirectory := found.2.2.contains
    medium := fun _ => found.2.1 }
  match launched.opened with
  | some (location, r) => preserve location r
  | none => pure ()
  match launched.outcome, launched.opened with
  | .ok i, some (location, r) =>
    IO.println "Cluster Registry ready"
    let stdin ← IO.getStdin
    let ended ← IO.asTask stdin.getLine
    if i.loop.isSome then follow ended location clusterFile i r
    else
      let _ ← IO.wait ended
    return 0
  | .error why, _ =>
    IO.eprint (Launch.report why.chain)
    return 1
  | _, none => return 1

end Fleet

def main : IO UInt32 := Fleet.program
