/-
  Fleet/Proofs/Config/Acceptance.lean
  ===================================
  **The cluster files that are loaded are the documented ones.**

  `Config.Documented` says which documents the documentation describes: a list of records, bare
  or under `clusters`, with at least one record, each of them as documented on its own, and no
  two of them with one endpoint.  Loading is a row of checks, and these find nothing exactly on
  such documents (`issuesOf_eq_nil_iff`).  After that nothing can go wrong any more: a record
  without issues is decoded (`Record.Documented.decodes`), and since no two definitions have one
  URL none of them takes the place of another in the snapshot (`Snapshot.ofList_perm`).
-/
import Mathlib.Data.List.Nodup
import Fleet.Config.Document
import Fleet.Proofs.Config.Checks

namespace Fleet

open Fleet.Text
open Fleet.Json (Fields)

/-! ### Snapshots of definitions with different URLs -/

namespace Snapshot

theorem place_perm {d : Definition} {ds : List Definition} (h : ∀ e ∈ ds, d.url ≠ e.url) :
    (place d ds).Perm (d :: ds) := by
  induction ds with
  | nil => exact .refl _
  | cons e ds ih =>
    rw [place, if_neg (h e List.mem_cons_self)]
    split
    · exact .refl _
    · have ih := ih fun x hx => h x (List.mem_cons_of_mem _ hx)
      exact (ih.cons e).trans (.swap d e ds)

/-- A snapshot of definitions with different URLs holds each of them. -/
theorem ofList_perm {ds : List Definition} (h : (ds.map (·.url)).Nodup) :
    (ofList ds).definitions.Perm ds := by
  induction ds using List.reverseRecOn with
  | nil => exact .refl _
  | append_singleton ds d ih =>
    rw [List.map_append, List.nodup_append] at h
    obtain ⟨hds, -, hd⟩ := h
    have ih := ih hds
    have hnew : ∀ e ∈ (ofList ds).definitions, d.url ≠ e.url := fun e he heq =>
      hd e.url (List.mem_map.2 ⟨e, ih.mem_iff.1 he, rfl⟩) d.url (by simp) heq.symm
    have hlast : ofList (ds ++ [d]) = (ofList ds).insert d := by simp [ofList]
    rw [hlast]
    exact ((place_perm hnew).trans (ih.cons d)).trans (List.perm_append_singleton d ds).symm

end Snapshot

namespace Config

/-! ### Records that are decoded -/

namespace Record

variable {r : Record}

/-- The definition says what the record says, under each key. -/
def Defines (r : Record) (d : Definition) : Prop := ∀ p ∈ d.toPairs, r.value? p.1 = some p.2

/-- The endpoint by which a record is known in the end. -/
def endpoint? (r : Record) : Option String := (r.text? "api-url").map withSlash

/-- **A record that is as documented is decoded.** -/
theorem Documented.decodes (h : r.Documented) (hr : r.Ascending) :
    ∃ d, Definition.ofJson (.obj r.withDefaults) = .ok d ∧ r.Defines d := by
  have hsorted := ascending_withDefaults hr
  have hfits : ∀ p ∈ r.withDefaults, Fits p.1 p.2 := fun p hp => by
    refine h.fits ?_
    rw [← get?_withDefaults]
    exact hsorted.get?_eq_some_iff.2 hp
  have hcomplete : Definition.Complete r.withDefaults := fun f hf => by
    rw [get?_withDefaults]
    exact Option.isSome_iff_exists.1 (h.complete hf)
  obtain ⟨d, hd, hsays⟩ := Definition.ofJson_obj hsorted hfits hcomplete
  exact ⟨d, hd, fun p hp => by rw [← get?_withDefaults, hsays p hp]⟩

theorem Documented.exists_endpoint (h : r.Documented) :
    ∃ url, r.endpoint? = some url ∧ r.value? "api-url" = some (.str url) ∧
      endpointOf r.withDefaults = some url := by
  obtain ⟨s, hs, hblank⟩ := h.required ⟨"api-url", .text, true⟩ (by decide) rfl
  have hs' := value?_of_url (by decide) hs hblank
  refine ⟨withSlash s, by rw [endpoint?, hs]; rfl, hs', ?_⟩
  rw [endpointOf, text?_withDefaults, hs']
  simp [Json.str?, isBlankText_withSlash]

theorem Defines.endpoint? {d : Definition} (h : r.Defines d) (hr : r.Documented) :
    r.endpoint? = some d.url := by
  obtain ⟨url, hurl, hvalue, -⟩ := hr.exists_endpoint
  have hd : r.value? "api-url" = some (.str d.url) := h ("api-url", .str d.url) (by simp [Definition.toPairs])
  rw [hvalue] at hd
  cases hd
  exact hurl

end Record

/-! ### Lists of records -/

theorem prepared_obj (r : Record) (i : Nat) (items : List (Json × Nat)) :
    prepared ((.obj r, i) :: items) = (i, r.withDefaults) :: prepared items := rfl

/-- There is no issue with duplicates exactly when the endpoints are different from each other
    and from those seen before. -/
theorem duplicateIssues_eq_nil_iff {seen : List (String × Nat)} {ps : List (Nat × Record)} :
    duplicateIssues seen ps = [] ↔
      (∀ url ∈ ps.filterMap (endpointOf ·.2), seen.lookup url = none) ∧
        (ps.filterMap (endpointOf ·.2)).Nodup := by
  induction ps generalizing seen with
  | nil => simp [duplicateIssues]
  | cons p ps ih =>
    obtain ⟨i, r⟩ := p
    rw [duplicateIssues]
    cases hr : endpointOf r with
    | none => simp [hr, ih]
    | some url =>
      cases hseen : seen.lookup url with
      | some first =>
        simp only [List.filterMap_cons, hr, List.forall_mem_cons, hseen, reduceCtorEq, false_and]
      | none =>
        have hlookup : ∀ u, ((url, i) :: seen).lookup u = none ↔ u ≠ url ∧ seen.lookup u = none := by
          intro u
          rw [List.lookup_cons]
          by_cases hu : u = url
          · simp [hu]
          · simp only [beq_false_of_ne hu, ne_eq, hu, not_false_eq_true, true_and]
        have hne : ∀ us : List String, (∀ u ∈ us, u ≠ url) ↔ url ∉ us := fun us =>
          ⟨fun h hmem => h url hmem rfl, fun h u hu heq => h (heq ▸ hu)⟩
        simp only [ih, hlookup, List.filterMap_cons, hr, List.forall_mem_cons, hseen, true_and,
          List.nodup_cons, forall_and, hne]
        exact ⟨fun ⟨⟨h₁, h₂⟩, h₃⟩ => ⟨h₂, h₁, h₃⟩, fun ⟨h₂, h₁, h₃⟩ => ⟨⟨h₁, h₂⟩, h₃⟩⟩

theorem endpoints_prepared {records : List Record} (h : ∀ r ∈ records, r.Documented) (i : Nat) :
    ((prepared ((records.map Json.obj).zipIdx i)).filterMap (endpointOf ·.2)).map some =
      records.map Record.endpoint? := by
  induction records generalizing i with
  | nil => rfl
  | cons r records ih =>
    obtain ⟨hr, hrecords⟩ := List.forall_mem_cons.1 h
    obtain ⟨url, hurl, -, hof⟩ := hr.exists_endpoint
    rw [List.map_cons, List.zipIdx_cons, prepared_obj]
    simp only [List.filterMap_cons, hof, List.map_cons, hurl, ih hrecords]

theorem decodes_prepared {records : List Record} (h : ∀ r ∈ records, r.Documented)
    (hsorted : ∀ r ∈ records, Fields.Ascending r) (i : Nat) :
    ∃ ds, ((prepared ((records.map Json.obj).zipIdx i)).mapM fun p => Definition.ofJson (.obj p.2)) =
      .ok ds ∧ List.Forall₂ Record.Defines records ds := by
  induction records generalizing i with
  | nil => exact ⟨[], rfl, .nil⟩
  | cons r records ih =>
    obtain ⟨hr, hrecords⟩ := List.forall_mem_cons.1 h
    obtain ⟨hrsorted, hsorted⟩ := List.forall_mem_cons.1 hsorted
    obtain ⟨d, hd, hdefines⟩ := hr.decodes hrsorted
    obtain ⟨ds, hds, hall⟩ := ih hrecords hsorted (i + 1)
    refine ⟨d :: ds, ?_, .cons hdefines hall⟩
    rw [List.map_cons, List.zipIdx_cons, prepared_obj, List.mapM_cons, hd, hds]
    rfl

theorem itemIssues_eq_nil_iff (index : Nat) (j : Json) :
    itemIssues index j = [] ↔ ∃ r : Record, j = .obj r ∧ r.Documented := by
  cases j <;> simp [itemIssues, Record.issues_eq_nil_iff]

theorem exists_records {items : List Json} (h : ∀ j ∈ items, ∃ r : Record, j = .obj r ∧ r.Documented) :
    ∃ records : List Record, items = records.map .obj ∧ ∀ r ∈ records, r.Documented := by
  induction items with
  | nil => exact ⟨[], rfl, by simp⟩
  | cons j items ih =>
    obtain ⟨⟨r, rfl, hr⟩, hitems⟩ := List.forall_mem_cons.1 h
    obtain ⟨records, rfl, hrecords⟩ := ih hitems
    exact ⟨r :: records, rfl, List.forall_mem_cons.2 ⟨hr, hrecords⟩⟩

/-! ### The documented format -/

/-- Records as the documentation has them: there is one, each is in order, and they have
    different endpoints. -/
structure Acceptable (records : List Record) : Prop where
  nonempty : records ≠ []
  documented : ∀ r ∈ records, r.Documented
  distinct : (records.map Record.endpoint?).Nodup

/-- **There is no issue with items exactly when they are acceptable records.** -/
theorem issuesOf_eq_nil_iff {items : List Json} :
    issuesOf items = [] ↔ ∃ records : List Record, items = records.map .obj ∧ Acceptable records := by
  have hitems : (∀ p ∈ items.zipIdx, ∃ r : Record, p.1 = .obj r ∧ r.Documented) ↔
      ∀ j ∈ items, ∃ r : Record, j = .obj r ∧ r.Documented := by
    conv_rhs => rw [← List.zipIdx_map_fst 0 items, List.forall_mem_map]
  simp only [issuesOf, List.append_eq_nil_iff, List.flatMap_eq_nil_iff, itemIssues_eq_nil_iff,
    hitems, duplicateIssues_eq_nil_iff]
  constructor
  · rintro ⟨⟨hempty, hitems⟩, -, hdistinct⟩
    obtain ⟨records, rfl, hrecords⟩ := exists_records hitems
    rw [← List.nodup_map_iff (Option.some_injective _), endpoints_prepared hrecords] at hdistinct
    refine ⟨records, rfl, ?_, hrecords, hdistinct⟩
    rintro rfl
    simp at hempty
  · rintro ⟨records, rfl, hnonempty, hrecords, hdistinct⟩
    rw [← endpoints_prepared hrecords 0, List.nodup_map_iff (Option.some_injective _)] at hdistinct
    refine ⟨⟨by simp [hnonempty], ?_⟩, fun _ _ => rfl, hdistinct⟩
    intro j hj
    obtain ⟨r, hr, rfl⟩ := List.mem_map.1 hj
    exact ⟨r, rfl, hrecords r hr⟩

/-- The document is this list, or an object that holds it under `clusters`. -/
def Lists (document : Json) (items : List Json) : Prop :=
  document = .arr items ∨
    ∃ o : Fields, document = .obj o ∧ Fields.get? "clusters" o = some (.arr items)

theorem recordsOf_eq_ok_iff {document : Json} {items : List Json} :
    recordsOf document = .ok items ↔ Lists document items := by
  cases document with
  | arr js => simp [recordsOf, Lists]
  | obj o =>
    cases hg : Fields.get? "clusters" o with
    | none => simp [recordsOf, Lists, hg]
    | some v => cases v <;> simp [recordsOf, Lists, hg]
  | _ => simp [recordsOf, Lists]

/-- The documents that the documentation describes. -/
def Documented (document : Json) : Prop :=
  ∃ records : List Record, Lists document (records.map .obj) ∧ Acceptable records

/-! ### Loading -/

theorem Lists.ascending {document : Json} {records : List Record}
    (h : Lists document (records.map .obj)) (hdocument : document.IsCanonical) :
    ∀ r ∈ records, Fields.Ascending r := by
  have hitems : (Json.arr (records.map .obj)).IsCanonical := by
    rcases h with rfl | ⟨o, rfl, hg⟩
    · exact hdocument
    · cases hdocument with
      | obj ho hfields => exact hfields _ (ho.get?_eq_some_iff.1 hg)
  intro r hr
  cases hitems with
  | arr hitems =>
    cases hitems _ (List.mem_map.2 ⟨r, hr, rfl⟩) with
    | obj hsorted => exact hsorted

theorem Acceptable.nodup_urls {records : List Record} {ds : List Definition}
    (h : Acceptable records) (hall : List.Forall₂ Record.Defines records ds) :
    (ds.map (·.url)).Nodup := by
  have hurls : records.map Record.endpoint? = (ds.map (·.url)).map some := by
    have hdocumented := h.documented
    clear h
    induction hall with
    | nil => rfl
    | cons hdefines _ ih =>
      obtain ⟨hr, hrecords⟩ := List.forall_mem_cons.1 hdocumented
      simp only [List.map_cons, hdefines.endpoint? hr, ih hrecords]
  exact (List.nodup_map_iff (Option.some_injective _)).1 (hurls ▸ h.distinct)

/-- Acceptable records are loaded, whatever stands beside them in the document. -/
theorem ofJson_of_records {document : Json} {records : List Record}
    (hlists : Lists document (records.map .obj)) (h : Acceptable records)
    (hsorted : ∀ r ∈ records, Fields.Ascending r) :
    ∃ ds, ofJson document = .ok (Snapshot.ofList ds) ∧ List.Forall₂ Record.Defines records ds := by
  obtain ⟨ds, hds, hall⟩ := decodes_prepared h.documented hsorted 0
  refine ⟨ds, ?_, hall⟩
  have hissues := issuesOf_eq_nil_iff.2 ⟨records, rfl, h⟩
  simp only [ofJson, definitionsOf, recordsOf_eq_ok_iff.2 hlists, hissues, hds]
  rfl

/-- **A documented document is loaded**, with a definition for each record. -/
theorem ofJson_of_acceptable {document : Json} {records : List Record}
    (hlists : Lists document (records.map .obj)) (h : Acceptable records)
    (hdocument : document.IsCanonical) :
    ∃ ds, ofJson document = .ok (Snapshot.ofList ds) ∧ List.Forall₂ Record.Defines records ds ∧
      (Snapshot.ofList ds).definitions.Perm ds := by
  obtain ⟨ds, hds, hall⟩ := ofJson_of_records hlists h (hlists.ascending hdocument)
  exact ⟨ds, hds, hall, Snapshot.ofList_perm (h.nodup_urls hall)⟩

/-- **Any other document is refused**, and some issues with it are reported. -/
theorem ofJson_of_not_documented {document : Json} (h : ¬ Documented document) :
    ∃ issues, issues ≠ [] ∧ ofJson document = .error (.invalid issues) := by
  cases hitems : recordsOf document with
  | error cause => exact ⟨[Issue.ofDocument cause], by simp, by simp only [ofJson, definitionsOf, hitems]; rfl⟩
  | ok items =>
    have hissues : issuesOf items ≠ [] := fun hnil => by
      obtain ⟨records, rfl, hrecords⟩ := issuesOf_eq_nil_iff.1 hnil
      exact h ⟨records, recordsOf_eq_ok_iff.1 hitems, hrecords⟩
    refine ⟨issuesOf items, hissues, ?_⟩
    simp only [ofJson, definitionsOf, hitems]
    rfl

/-- **What is loaded is exactly what is documented.**  Decoding never fails once the checks
    have passed, and the snapshot holds one definition for each record: the values that are
    written, and the defaults of those that are not. -/
theorem ofJson_ok_iff_documented {document : Json} (hdocument : document.IsCanonical) :
    ((∃ s, ofJson document = .ok s) ↔ Documented document) ∧
      (∀ why, ofJson document ≠ .error (.undecodable why)) ∧
      ∀ s, ofJson document = .ok s →
        ∃ records ds, Lists document (records.map .obj) ∧ List.Forall₂ Record.Defines records ds ∧
          s.definitions.Perm ds := by
  by_cases h : Documented document
  · obtain ⟨records, hlists, hrecords⟩ := id h
    obtain ⟨ds, hds, hall, hperm⟩ := ofJson_of_acceptable hlists hrecords hdocument
    refine ⟨⟨fun _ => h, fun _ => ⟨_, hds⟩⟩, ?_, ?_⟩
    · intro why hwhy
      rw [hds] at hwhy
      cases hwhy
    · intro s hs
      rw [hds] at hs
      cases hs
      exact ⟨records, ds, hlists, hall, hperm⟩
  · obtain ⟨issues, -, hissues⟩ := ofJson_of_not_documented h
    refine ⟨⟨fun ⟨s, hs⟩ => ?_, fun hd => absurd hd h⟩, ?_, ?_⟩
    · rw [hissues] at hs
      cases hs
    · intro why hwhy
      rw [hissues] at hwhy
      cases hwhy
    · intro s hs
      rw [hissues] at hs
      cases hs

/-- A record at a loopback address, of which nothing can be derived. -/
def Record.loopback : Record := [
  ("api-url", .str "http://[::1]"),
  ("app-dns", .str "one"),
  ("auth-client-default-scope", .str "scope"),
  ("auth-client-id", .str "id"),
  ("auth-client-secret", .str "secret"),
  ("console-url", .str "http://[::1]/console"),
  ("logging-url", .str "http://[::1]/logging"),
  ("metrics-url", .str "http://[::1]/metrics"),
  ("name", .str "one"),
  ("service-account-token", .str "token"),
  ("service-account-username", .str "user")]

def loopbackFile : Json := .obj [("clusters", .arr [.obj Record.loopback])]

theorem loopbackFile_ok_iff_documented :
    loopbackFile.IsCanonical ∧ (∃ s, ofJson loopbackFile = .ok s) ∧ Documented loopbackFile := by
  have hrecord : Record.loopback.Ascending := by
    unfold Fields.Ascending Record.loopback
    decide
  have hvalues : ∀ p ∈ Record.loopback, p.2.IsCanonical := by
    simp only [Record.loopback, List.forall_mem_cons]
    exact ⟨.str _, .str _, .str _, .str _, .str _, .str _, .str _, .str _, .str _, .str _, .str _,
      by simp⟩
  have hfile : loopbackFile.IsCanonical := by
    refine .obj (List.pairwise_singleton _ _) ?_
    simpa using Json.IsCanonical.arr (by simpa using Json.IsCanonical.obj hrecord hvalues)
  have hloads : ∃ s, ofJson loopbackFile = .ok s := by
    have hok : (ofJson loopbackFile).isOk = true := by decide +kernel
    cases hs : ofJson loopbackFile with
    | ok s => exact ⟨s, rfl⟩
    | error e =>
      rw [hs] at hok
      cases hok
  exact ⟨hfile, hloads, (ofJson_ok_iff_documented hfile).1.1 hloads⟩

/-- Whatever a text says, it is never found out only on decoding that it cannot be loaded. -/
theorem ofText_ne_undecodable (text : String) (why : DecodeFault) :
    ofText text ≠ .error (.undecodable why) := by
  intro h
  rw [ofText] at h
  cases hparse : Json.parse text with
  | error fault => rw [hparse] at h; cases h
  | ok document =>
    replace h : ofJson document = .error (.undecodable why) := by rw [hparse] at h; exact h
    by_cases hd : Documented document
    · obtain ⟨records, hlists, hrecords⟩ := hd
      obtain ⟨ds, hds, -⟩ :=
        ofJson_of_acceptable hlists hrecords (Json.isCanonical_of_parse hparse)
      rw [hds] at h
      cases h
    · obtain ⟨issues, -, hissues⟩ := ofJson_of_not_documented hd
      rw [hissues] at h
      cases h

end Config

end Fleet
