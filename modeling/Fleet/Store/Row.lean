/-
  Fleet/Store/Row.lean
  ====================
  **Stored rows.**

  A row holds a cluster with its identifier and its kind as texts, and the times at which it
  was created and last written.  The texts are only interpreted when the row is read, so a
  row that something else has written may turn out to hold no cluster (`Row.decode`).

  A link ties an identity to the identifier of a cluster.
-/
import Fleet.Cluster

namespace Fleet.Store

structure Row extends Profile where
  id : String
  kind : String
  created : Nat
  updated : Nat
deriving DecidableEq, Repr

/-- A stored link of an identity to a cluster. -/
structure Link where
  identity : Uuid
  cluster : Uuid
  created : Nat
deriving DecidableEq, Repr

namespace Row

def ofCluster (now : Nat) (c : Cluster) : Row :=
  { c.toProfile with id := c.id.render, kind := c.kind.name, created := now, updated := now }

/-- The row with everything but its identifier and its time of creation taken from a cluster. -/
def overwrite (r : Row) (now : Nat) (c : Cluster) : Row :=
  { c.toProfile with id := r.id, kind := c.kind.name, created := r.created, updated := now }

/-- The cluster in a row, with the times of the row.  The identifier is looked at first. -/
def decode (r : Row) : Except Error Registered :=
  match Uuid.parse r.id with
  | .error why => .error (.corrupt (.badId r.id why.message))
  | .ok id =>
    match Kind.ofName? r.kind with
    | none => .error (.corrupt (.badKind r.url r.kind))
    | some kind => .ok { r.toProfile with kind, id, created := r.created, updated := r.updated }

def isTarget (r : Row) (l : Link) : Bool := l.cluster.render == r.id

end Row

end Fleet.Store
