/-
  Fleet/Config/Record.lean
  ========================
  **Records of a cluster file: their checks and their defaults.**

  A record is checked in two passes.  The first one looks at the kinds of the values that are
  there (`kindIssues`).  Then the missing keys get their defaults and URLs their final slash
  (`withDefaults`), and the second pass looks at the values themselves (`valueIssues`).  Every
  issue of a record is reported, and none of them twice.
-/
import Fleet.Cluster
import Fleet.Config.Issue

namespace Fleet.Config

open Fleet.Text

/-- A record of a cluster file. -/
abbrev Record := Json.Fields

namespace Record

/-- The text under a key, if there is a text. -/
def text? (r : Record) (key : String) : Option String := (Json.Fields.get? key r).bind Json.str?

/-- The name of a record, if it is not blank. -/
def name? (r : Record) : Option String := (r.text? "name").filter (!isBlankText ·)

/-- The endpoint of the API of a record, if its text names one. -/
def api? (r : Record) : Option Url := (r.text? "api-url").bind fun s => (Endpoint.parse s).toOption

/-- An issue with a key of the record at this index. -/
def issue (index : Nat) (r : Record) (key : String) (cause : Issue.Cause) : Issue :=
  ⟨some index, r.name?, some key, cause⟩

/-! ### Defaults -/

/-- Puts a default at a key that is missing. -/
def fill (api : Option Url) (r : Record) (key : String) (d : Default) : Record :=
  if Json.Fields.has key r then r
  else
    match d.value? api with
    | some v => Json.Fields.insert key v r
    | none => r

/-- Gives a URL that is not blank its final slash. -/
def slash (r : Record) (key : String) : Record :=
  match Json.Fields.get? key r with
  | some (.str s) => if isBlankText s then r else Json.Fields.insert key (.str (withSlash s)) r
  | _ => r

/-- The record with its defaults, and with a final slash behind its URLs.  An endpoint that
    cannot be derived stays missing. -/
def withDefaults (r : Record) : Record :=
  Field.urls.foldl slash (Field.defaults.foldl (fun r' (key, d) => fill r.api? r' key d) r)

/-! ### Checks -/

/-- The keys whose values are of another kind than their field. -/
def kindIssues (index : Nat) (r : Record) : List Issue :=
  Field.all.filterMap fun f =>
    match Json.Fields.get? f.name r with
    | some v => if f.kind.admits v then none else some (r.issue index f.name (.wrongKind f.kind v))
    | none => none

/-- The required keys that are missing or blank. -/
def requiredIssues (index : Nat) (r : Record) : List Issue :=
  (Field.all.filter (·.required)).filterMap fun f =>
    match Json.Fields.get? f.name r with
    | none => some (r.issue index f.name .missing)
    | some (.str s) => if isBlankText s then some (r.issue index f.name .blank) else none
    | some _ => none

/-- An unknown kind of deployment. -/
def typeIssues (index : Nat) (r : Record) : List Issue :=
  match r.text? "type" with
  | some s => if (Kind.ofName? s).isSome then [] else [r.issue index "type" (.unknownKind s)]
  | none => []

def urlIssues (index : Nat) (r : Record) : List Issue :=
  Field.urls.filterMap fun key =>
    match r.text? key with
    | some s =>
      if isBlankText s then none
      else
        match Endpoint.parse s with
        | .ok _ => none
        | .error why => some (r.issue index key (.badUrl s why))
    | none => none

/-- The endpoints that are still missing although the one of the API is known. -/
def derivedIssues (index : Nat) (r : Record) : List Issue :=
  match r.text? "api-url" with
  | some s =>
    if Endpoint.isValid s then
      Field.defaults.filterMap fun (key, d) =>
        match d with
        | .derived _ _ =>
          if Json.Fields.has key r then none else some (r.issue index key (.underivable s))
        | _ => none
    else []
  | none => []

/-- What is wrong with the values of a record that has its defaults. -/
def valueIssues (index : Nat) (r : Record) : List Issue :=
  r.requiredIssues index ++ r.typeIssues index ++ r.urlIssues index ++ r.derivedIssues index

/-- Everything that is wrong with a record on its own. -/
def issues (index : Nat) (r : Record) : List Issue :=
  r.kindIssues index ++ r.withDefaults.valueIssues index

end Record

end Fleet.Config
