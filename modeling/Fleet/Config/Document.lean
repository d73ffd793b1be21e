/-
  Fleet/Config/Document.lean
  ==========================
  **Loading cluster files.**

  The document of a cluster file is the list of its records, or an object that holds this list
  under `clusters`.  It is loaded when nothing at all is wrong with it; then every record gives
  one definition.  Otherwise all issues are reported: those of the document, then those of the
  records one after another, and last the records whose endpoint an earlier one has too.
-/
import Fleet.Config.Definition
import Fleet.Config.Record
import Fleet.Config.Snapshot

namespace Fleet.Config

open Fleet.Text

def recordsOf : Json → Except Issue.Cause (List Json)
  | .arr items => .ok items
  | .obj o =>
    match Json.Fields.get? "clusters" o with
    | some (.arr items) => .ok items
    | _ => .error .noClusters
  | _ => .error .notDocument

/-- The issues of the item at an index, on its own. -/
def itemIssues (index : Nat) : Json → List Issue
  | .obj r => Record.issues index r
  | _ => [⟨some index, none, none, .notObject⟩]

/-- The records among the items, with their indices and their defaults. -/
def prepared (items : List (Json × Nat)) : List (Nat × Record) :=
  items.filterMap fun
    | (.obj r, i) => some (i, Record.withDefaults r)
    | _ => none

/-- The endpoint by which a record is known, if it is not blank. -/
def endpointOf (r : Record) : Option String := (r.text? "api-url").filter (!isBlankText ·)

/-- The records whose endpoint is among those seen, which come with the index of the first
    record that has them. -/
def duplicateIssues (seen : List (String × Nat)) : List (Nat × Record) → List Issue
  | [] => []
  | (i, r) :: rest =>
    match endpointOf r with
    | none => duplicateIssues seen rest
    | some url =>
      match seen.lookup url with
      | some first => r.issue i "api-url" (.duplicate url first) :: duplicateIssues seen rest
      | none => duplicateIssues ((url, i) :: seen) rest

/-- Everything that is wrong with a list of records. -/
def issuesOf (items : List Json) : List Issue :=
  (if items.isEmpty then [Issue.ofDocument .empty] else []) ++
    items.zipIdx.flatMap (fun (j, i) => itemIssues i j) ++
    duplicateIssues [] (prepared items.zipIdx)

def definitionsOf (document : Json) : Except Fault (List Definition) :=
  match recordsOf document with
  | .error cause => .error (.invalid [Issue.ofDocument cause])
  | .ok items =>
    match issuesOf items with
    | [] =>
      ((prepared items.zipIdx).mapM fun p => Definition.ofJson (.obj p.2)).mapError .undecodable
    | is => .error (.invalid is)

def ofJson (document : Json) : Except Fault Snapshot :=
  (definitionsOf document).map Snapshot.ofList

def ofText (text : String) : Except Fault Snapshot := do
  let document ← (Json.parse text).mapError .malformed
  ofJson document

end Fleet.Config
