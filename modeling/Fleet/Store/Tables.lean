/-
  Fleet/Store/Tables.lean
  =======================
  **The tables of the registry, and the statements on them.**

  Identifiers and URLs of rows are unique, and so are links; a link needs the row it leads to,
  and goes away with it.  A statement that would break one of these rules is refused and
  changes nothing.

  A trap makes statements on rows of a certain name fail.  It springs before any of the rules
  is looked at, and of two traps for one statement the one that was set later springs.
-/
import Fleet.Store.Row

namespace Fleet.Store

/-! ### Traps -/

inductive Point where
  | insert | update | delete | link | unlink | commit
  /-- The beginning of any transaction. -/
  | start
deriving DecidableEq, Repr

/-- Makes what happens at a point to a row of this name fail with a message. -/
structure Trap where
  point : Point
  name : String
  message : String
deriving DecidableEq, Repr

/-- The message of the trap that springs at a point for a name; later traps come first. -/
def sprung? (traps : List Trap) (point : Point) (name : String) : Option String :=
  (traps.find? fun t => t.point = point && t.name = name).map (·.message)

/-! ### Tables -/

inductive Refusal where
  | trapped (message : String)
  | taken
  /-- The row that a link leads to is not there. -/
  | dangling
deriving DecidableEq, Repr

structure Tables where
  rows : List Row
  links : List Link
deriving DecidableEq, Repr

namespace Tables

def empty : Tables := ⟨[], []⟩

def row? (t : Tables) (id : String) : Option Row := t.rows.find? (·.id = id)

def rowAt? (t : Tables) (url : String) : Option Row := t.rows.find? (·.url = url)

/-- The rows in ascending order of their URLs. -/
def sorted (t : Tables) : List Row := t.rows.mergeSort fun a b => decide (a.url ≤ b.url)

/-- Whether one link comes before another: by time, and at one time by cluster. -/
def Link.before (a b : Link) : Bool :=
  a.created < b.created || (a.created == b.created && decide (a.cluster.render ≤ b.cluster.render))

/-- The links of an identity in the order of their creation. -/
def linksOf (t : Tables) (identity : Uuid) : List Link :=
  (t.links.filter (·.identity = identity)).mergeSort Link.before

/-- The rows to which an identity has links, in ascending order of their URLs. -/
def rowsOf (t : Tables) (identity : Uuid) : List Row :=
  t.sorted.filter fun r => t.links.any fun l => l.identity = identity && r.isTarget l

/-- The link of an identity to a cluster. -/
def link? (t : Tables) (identity cluster : Uuid) : Option Link :=
  t.links.find? fun l => l.identity = identity && l.cluster = cluster

/-! ### Statements -/

def insert (traps : List Trap) (now : Nat) (c : Cluster) (t : Tables) : Except Refusal (Row × Tables) :=
  match sprung? traps .insert c.name with
  | some m => .error (.trapped m)
  | none =>
    if t.rows.any fun r => r.id = c.id.render || r.url = c.url then .error .taken
    else
      let row := Row.ofCluster now c
      .ok (row, { t with rows := t.rows ++ [row] })

/-- Overwrites the row with the identifier of a cluster, if there is one. -/
def update (traps : List Trap) (now : Nat) (c : Cluster) (t : Tables) :
    Except Refusal (Option (Row × Tables)) :=
  match t.row? c.id.render with
  | none => .ok none
  | some r =>
    match sprung? traps .update c.name with
    | some m => .error (.trapped m)
    | none =>
      if t.rows.any fun q => q.id ≠ r.id && q.url = c.url then .error .taken
      else
        let row := r.overwrite now c
        .ok (some (row, { t with rows := t.rows.map fun q => if q.id = r.id then row else q }))

/-- Takes the row with an identifier away, together with the links to it. -/
def delete (traps : List Trap) (id : Uuid) (t : Tables) : Except Refusal (Bool × Tables) :=
  match t.row? id.render with
  | none => .ok (false, t)
  | some r =>
    match sprung? traps .delete r.name with
    | some m => .error (.trapped m)
    | none =>
      .ok (true, { rows := t.rows.filter (·.id ≠ r.id), links := t.links.filter (!r.isTarget ·) })

def link (traps : List Trap) (now : Nat) (identity cluster : Uuid) (t : Tables) :
    Except Refusal (Link × Tables) :=
  match (t.row? cluster.render).bind fun r => sprung? traps .link r.name with
  | some m => .error (.trapped m)
  | none =>
    if (t.link? identity cluster).isSome then .error .taken
    else if (t.row? cluster.render).isNone then .error .dangling
    else
      let l : Link := ⟨identity, cluster, now⟩
      .ok (l, { t with links := t.links ++ [l] })

/-- Takes the link of an identity to the cluster at a URL away, and tells how many there were. -/
def unlink (traps : List Trap) (identity : Uuid) (url : String) (t : Tables) :
    Except Refusal (Nat × Tables) :=
  match t.rowAt? url with
  | none => .ok (0, t)
  | some r =>
    let gone := t.links.filter fun l => l.identity = identity && r.isTarget l
    match if gone.isEmpty then none else sprung? traps .unlink r.name with
    | some m => .error (.trapped m)
    | none =>
      .ok (gone.length,
        { t with links := t.links.filter fun l => !(l.identity = identity && r.isTarget l) })

end Tables

end Fleet.Store
