/-
  Fleet/Proofs/Service/Validity.lean
  ==================================
  **The clusters that are stored are valid.**

  A cluster reaches the tables in one of two ways, and each of them has its own checks.  One that
  is to be saved is checked as a whole in its normal form.  One from a cluster file is checked as
  a record, before it is a cluster.  The two agree on everything but one point: a cluster file may
  say that the console, the metrics or the logging of a cluster have a blank URL, and then this is
  what is stored (`Cluster.Admissible`).

  So all stored clusters are valid as long as no cluster file leaves a URL blank
  (`Registry.Reached.valid`), and not otherwise (`blankFile_not_valid`).
-/
import Mathlib
import Fleet.Proofs.Config.Acceptance
import Fleet.Proofs.Service.Runs

namespace Fleet

open Fleet.Text Fleet.Store Fleet.Config

/-! ### The checks of a cluster -/

theorem seq_eq_ok_iff {ε : Type} {x y : Except ε Unit} :
    (do x; y) = .ok () ↔ x = .ok () ∧ y = .ok () := by
  cases x <;> simp [bind, Except.bind]

theorem forM_eq_ok_iff {ε α : Type} {f : α → Except ε Unit} {l : List α} :
    l.forM f = .ok () ↔ ∀ a ∈ l, f a = .ok () := by
  rw [List.forM_eq_forM]
  induction l with
  | nil => simp [pure, Except.pure]
  | cons a l ih => rw [List.forM_cons, List.forall_mem_cons, ← ih, seq_eq_ok_iff]

namespace Cluster

/-- **A cluster is valid if its required texts are not blank and its URLs are endpoints.** -/
theorem check_eq_ok_iff {c : Cluster} :
    c.check = .ok () ↔ (∀ p ∈ c.requiredTexts, isBlankText p.2 = false) ∧
      ∀ p ∈ c.urls, Endpoint.isValid p.2 = true := by
  have htext (p : String × String) : checkText p.1 p.2 = .ok () ↔ isBlankText p.2 = false := by
    unfold checkText
    cases isBlankText p.2 <;> simp
  have hurl (p : String × String) : checkUrl p.1 p.2 = .ok () ↔ Endpoint.isValid p.2 = true := by
    unfold checkUrl Endpoint.isValid
    cases Endpoint.parse p.2 <;> simp [Except.isOk, Except.toBool]
  simp only [check, seq_eq_ok_iff, forM_eq_ok_iff, htext, hurl]

theorem check_of_normalize {c n : Cluster} (h : c.normalize = .ok n) : n.check = .ok () := by
  obtain ⟨api, -, h⟩ := Json.of_bind_eq_ok h
  obtain ⟨console, -, h⟩ := Json.of_bind_eq_ok h
  obtain ⟨metrics, -, h⟩ := Json.of_bind_eq_ok h
  obtain ⟨logging, -, h⟩ := Json.of_bind_eq_ok h
  obtain ⟨u, hcheck, h⟩ := Json.of_bind_eq_ok h
  cases h
  exact hcheck

end Cluster

/-! ### Blank URLs in cluster files -/

namespace Config

def HasRecord (text : String) (r : Record) : Prop :=
  ∃ (document : Json) (records : List Record), Json.parse text = .ok document ∧
    Lists document (records.map .obj) ∧ r ∈ records

/-- A cluster file says of the cluster at `url` that the value of this key is this blank text. -/
def LeavesBlank (text url key value : String) : Prop :=
  isBlankText value = true ∧
    ∃ r : Record, HasRecord text r ∧ r.endpoint? = some url ∧ r.text? key = some value

theorem exists_of_forall₂ {α β : Type} {R : α → β → Prop} {as : List α} {bs : List β}
    (h : List.Forall₂ R as bs) {b : β} (hb : b ∈ bs) : ∃ a ∈ as, R a b := by
  induction h with
  | nil => cases hb
  | cons hab _ ih =>
    rcases List.mem_cons.1 hb with rfl | hb
    · exact ⟨_, List.mem_cons_self, hab⟩
    · obtain ⟨a, ha, hR⟩ := ih hb
      exact ⟨a, List.mem_cons_of_mem _ ha, hR⟩

theorem exists_record {text : String} {s : Snapshot} (h : ofText text = .ok s) {d : Definition}
    (hd : d ∈ s.definitions) :
    ∃ r : Record, HasRecord text r ∧ r.Documented ∧ r.Defines d := by
  obtain ⟨document, hparse, hload⟩ := Json.of_bind_eq_ok h
  have hparse := Json.of_mapError_eq_ok hparse
  by_cases hdocument : Documented document
  · obtain ⟨records, hlists, hacceptable⟩ := hdocument
    obtain ⟨ds, hds, hall, hperm⟩ :=
      ofJson_of_acceptable hlists hacceptable (Json.isCanonical_of_parse hparse)
    rw [hds] at hload
    cases hload
    obtain ⟨r, hr, hdefines⟩ := exists_of_forall₂ hall (hperm.mem_iff.1 hd)
    exact ⟨r, ⟨document, records, hparse, hlists, hr⟩, hacceptable.documented r hr, hdefines⟩
  · obtain ⟨issues, -, hissues⟩ := ofJson_of_not_documented hdocument
    rw [hissues] at hload
    cases hload

/-- What a definition needs to have is not blank. -/
theorem Record.Defines.requiredTexts {r : Record} {d : Definition} (h : r.Defines d)
    (hr : r.Documented) (id : Uuid) (tokenProvider : String) :
    ∀ p ∈ (d.withId id tokenProvider).requiredTexts, isBlankText p.2 = false := by
  have hrequired : ∀ p ∈ (d.withId id tokenProvider).requiredTexts,
      (p.1, .str p.2) ∈ d.toPairs ∧ ⟨p.1, .text, true⟩ ∈ Field.all := by
    simp [Cluster.requiredTexts, Definition.withId, Definition.toPairs, Field.all]
  intro p hp
  obtain ⟨hpair, hfield⟩ := hrequired p hp
  obtain ⟨s, hs, hblank⟩ := hr.required _ hfield rfl
  obtain ⟨s', hs', hblank'⟩ := exists_value?_of_text? hs hblank
  have hvalue := h _ hpair
  rw [hs'] at hvalue
  cases hvalue
  exact hblank'

/-! ### Documents that are in order -/

/-- The snapshot of a document that is in order. -/
def snapshotOf (document : Json) : Snapshot := (ofJson document).toOption.getD .empty

theorem ofText_of_parse {text : String} {document : Json} (h : Json.parse text = .ok document) :
    ofText text = ofJson document := by
  rw [ofText, h]
  rfl

theorem ofText_of_isOk {text : String} {document : Json} (hparse : Json.parse text = .ok document)
    (hok : (ofJson document).isOk = true) : ofText text = .ok (snapshotOf document) := by
  rw [ofText_of_parse hparse, snapshotOf]
  cases hs : ofJson document with
  | ok s => rfl
  | error why =>
    rw [hs] at hok
    cases hok

end Config

/-! ### Clusters that may be stored -/

namespace Cluster

/-- A cluster that may be stored when these cluster files may come: it is valid, but for URLs that
    a cluster file has left blank. -/
structure Admissible (files : String → Prop) (c : Cluster) : Prop where
  texts : ∀ p ∈ c.requiredTexts, isBlankText p.2 = false
  api : Endpoint.isValid c.url = true
  urls : ∀ p ∈ c.urls, Endpoint.isValid p.2 = true ∨
    ∃ text, files text ∧ LeavesBlank text c.url p.1 p.2

variable {files : String → Prop} {c : Cluster}

theorem admissible_of_check (h : c.check = .ok ()) : c.Admissible files := by
  obtain ⟨htexts, hurls⟩ := check_eq_ok_iff.1 h
  refine ⟨htexts, hurls ("api-url", c.url) (by simp [Cluster.urls]), ?_⟩
  intro p hp
  exact .inl (hurls p hp)

/-- Where no cluster file leaves a URL blank, a cluster that may be stored is valid. -/
theorem Admissible.check (h : c.Admissible files)
    (hfiles : ∀ text, files text → ∀ key value, ¬ LeavesBlank text c.url key value) :
    c.check = .ok () := by
  refine check_eq_ok_iff.2 ⟨h.texts, ?_⟩
  intro p hp
  rcases h.urls p hp with hvalid | ⟨text, hfile, hblank⟩
  · exact hvalid
  · exact absurd hblank (hfiles text hfile p.1 p.2)

/-- **Definitions that are loaded may be stored**, under any identifier. -/
theorem admissible_of_ofText {text : String} {s : Snapshot} (hfile : files text)
    (h : ofText text = .ok s) {d : Definition} (hd : d ∈ s.definitions) (id : Uuid)
    (tokenProvider : String) : (d.withId id tokenProvider).Admissible files := by
  obtain ⟨r, hr, hdocumented, hdefines⟩ := exists_record h hd
  have hendpoint := hdefines.endpoint? hdocumented
  have hurls : ∀ p ∈ (d.withId id tokenProvider).urls,
      (p.1, .str p.2) ∈ d.toPairs ∧ p.1 ∈ Field.urls := by
    simp [Cluster.urls, Definition.withId, Definition.toPairs, Field.urls]
  have hcases : ∀ p ∈ (d.withId id tokenProvider).urls,
      (isBlankText p.2 = false ∧ Endpoint.isValid p.2 = true) ∨
        (isBlankText p.2 = true ∧ r.text? p.1 = some p.2) := by
    intro p hp
    obtain ⟨hpair, hurl⟩ := hurls p hp
    exact hdocumented.url_cases hurl (hdefines _ hpair)
  refine ⟨hdefines.requiredTexts hdocumented id tokenProvider, ?_, ?_⟩
  · rcases hcases ("api-url", d.url) (by simp [Cluster.urls, Definition.withId]) with
      ⟨-, hvalid⟩ | ⟨hblank, htext⟩
    · exact hvalid
    · -- the URL of the cluster itself is required, so it is not blank
      obtain ⟨s, hs, hfull⟩ := hdocumented.required ⟨"api-url", .text, true⟩ (by decide) rfl
      rw [hs] at htext
      cases htext
      rw [hblank] at hfull
      cases hfull
  · intro p hp
    rcases hcases p hp with ⟨-, hvalid⟩ | ⟨hblank, htext⟩
    · exact .inl hvalid
    · exact .inr ⟨text, hfile, hblank, r, hr, hendpoint, htext⟩

end Cluster

/-! ### Stored clusters -/

/-- **The clusters that are stored are valid**, unless a cluster file has left a URL of theirs
    blank. -/
theorem Registry.Reached.valid {files : String → Prop} {b : Backend} {r r' : Registry}
    (h : Reached files r r') (hr : r.database = .create b) :
    ∀ row ∈ r'.database.tables.rows, ∃ c, row.decode = .ok c ∧ c.Admissible files ∧
      ((∀ text, files text → ∀ key value, ¬ LeavesBlank text c.url key value) → c.check = .ok ()) := by
  have hhold : r'.database.tables.Hold (Cluster.Admissible files) := by
    refine h.hold ?_ ?_ (by rw [hr]; exact Tables.hold_empty)
    · intro c n hn id tokenProvider
      have hn : n.Admissible files := Cluster.admissible_of_check (Cluster.check_of_normalize hn)
      exact ⟨hn.texts, hn.api, hn.urls⟩
    · intro text s hfile hs d hd id tokenProvider
      exact Cluster.admissible_of_ofText hfile hs hd id tokenProvider
  intro row hrow
  obtain ⟨c, hdecode, hc⟩ := hhold row hrow
  exact ⟨c, hdecode, hc, hc.check⟩

namespace Registry

/-- A registry in which a cluster has been saved at a loopback address. -/
def saved : Registry :=
  let c := { Context.bare "http://[::1]" with
    name := "a", consoleUrl := "http://[::1]/c", metricsUrl := "http://[::1]/m",
    loggingUrl := "http://[::1]/l", appDns := "a", token := "a", tokenUser := "a",
    clientId := "a", clientSecret := "a", clientScope := "a" }
  ((Service.mk Context.halfMinute .everyone).serve (.user .nil) (.save c) (Context.blank .sqlite)).2

theorem saved_valid :
    Reached (fun _ => False) (Context.blank .sqlite) saved ∧
      saved.database.tables.rows.length = 1 ∧
      ∀ row ∈ saved.database.tables.rows, ∃ c, row.decode = .ok c ∧
        c.Admissible (fun _ => False) ∧
        ((∀ text, False → ∀ key value, ¬ LeavesBlank text c.url key value) → c.check = .ok ()) :=
  have h : Reached (fun _ => False) (Context.blank .sqlite) saved := .step .start (.serve _ _ _)
  ⟨h, by decide +kernel, h.valid rfl⟩

/-! ### A cluster file that leaves URLs blank -/

/-- A record at a loopback address that leaves all URLs blank which it need not have. -/
def blankRecord : Record := [
  ("api-url", .str "http://[::1]"),
  ("app-dns", .str "a"),
  ("auth-client-default-scope", .str "a"),
  ("auth-client-id", .str "a"),
  ("auth-client-secret", .str "a"),
  ("console-url", .str ""),
  ("logging-url", .str ""),
  ("metrics-url", .str ""),
  ("name", .str "a"),
  ("service-account-token", .str "a"),
  ("service-account-username", .str "a")]

def blankFile : String :=
  "[\x7b\"name\":\"a\",\"api-url\":\"http://[::1]\",\"console-url\":\"\",\"metrics-url\":\"\"," ++
  "\"logging-url\":\"\",\"app-dns\":\"a\",\"service-account-token\":\"a\"," ++
  "\"service-account-username\":\"a\",\"auth-client-id\":\"a\"," ++
  "\"auth-client-secret\":\"a\",\"auth-client-default-scope\":\"a\"\x7d]"

theorem parse_blankFile : Json.parse blankFile = .ok (.arr [.obj blankRecord]) := by cbv

def blankSnapshot : Snapshot := snapshotOf (.arr [.obj blankRecord])

theorem ofText_blankFile : ofText blankFile = .ok blankSnapshot :=
  ofText_of_isOk parse_blankFile (by decide +kernel)

/-- **A cluster whose URLs a cluster file leaves blank is stored, and is not valid.** -/
theorem blankFile_not_valid :
    ¬ ∀ r, Reached (fun _ => True) (Context.blank .sqlite) r →
      ∀ row ∈ r.database.tables.rows, ∀ c, row.decode = .ok c → c.check = .ok () := by
  intro h
  have hall := h _ (.step .start (.sync Context.halfMinute trivial ofText_blankFile))
  have hinvalid :
      (((Context.blank .sqlite).sync Context.halfMinute blankSnapshot).2.database.tables.rows.any
        fun row => row.decode.toOption.any fun c => !c.check.isOk) = true := by
    decide +kernel
  obtain ⟨row, hrow, hany⟩ := List.any_eq_true.1 hinvalid
  cases hdecode : row.decode with
  | error e => rw [hdecode] at hany; cases hany
  | ok c =>
    rw [hdecode] at hany
    have hcheck : (!c.check.isOk) = true := hany
    rw [hall row hrow c hdecode] at hcheck
    cases hcheck

end Registry

end Fleet
