/-
  Fleet/Config/Source.lean
  ========================
  **The cluster file, and the last good snapshot of it.**

  A source is opened only on a file that loads.  After that it is loaded again on demand; when
  that fails the snapshot stays what it was.
-/
import Fleet.Config.Document

namespace Fleet.Config

/-- What is found at the path of a file. -/
inductive File where
  | absent
  | directory
  /-- A file that holds no text. -/
  | bytes
  | text (s : String)
deriving DecidableEq, Repr

def File.read : File → Except ReadFault String
  | absent => .error .absent
  | directory => .error .directory
  | bytes => .error .notText
  | text s => .ok s

def File.load (path : String) (f : File) : Except Fault Snapshot :=
  match f.read with
  | .error why => .error (.unreadable path why)
  | .ok s => ofText s

/-- A cluster file with its last good snapshot. -/
structure Source where
  path : String
  snapshot : Snapshot

namespace Source

def load (path : String) (f : File) : Except Fault Source :=
  (f.load path).map fun s => ⟨path, s⟩

/-- Loads the file again.  The new snapshot takes the place of the old one if it loads. -/
def reload (src : Source) (f : File) : Except Fault Snapshot × Source :=
  match f.load src.path with
  | .ok s => (.ok s, { src with snapshot := s })
  | .error e => (.error e, src)

end Source

end Fleet.Config
