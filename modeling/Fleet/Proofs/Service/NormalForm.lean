/-
  Fleet/Proofs/Service/NormalForm.lean
  ====================================
  **Normal forms, and definitions that are in normal form already.**

  A cluster has a normal form if its URL is an endpoint, the endpoints that it leaves blank can be
  derived from it, and what comes out is valid (`Cluster.normalize_eq_ok_iff`).

  Loading a cluster file does the same to its records: URLs get their final slash once and for all.
  So the definitions that are loaded are in normal form, as long as none of their URLs is blank
  (`Definition.normalize_of_ofText`).
-/
import Fleet.Proofs.Service.Validity
import Fleet.Proofs.Url.Slash

namespace Fleet

open Fleet.Text Fleet.Config

/-! ### Normal forms -/

namespace Cluster

variable {c n : Cluster}

def withUrls (c : Cluster) (url consoleUrl metricsUrl loggingUrl : String) : Cluster :=
  { c with url, consoleUrl, metricsUrl, loggingUrl }

@[simp] theorem withUrls_withUrls (c : Cluster) (url consoleUrl metricsUrl loggingUrl url' consoleUrl'
    metricsUrl' loggingUrl' : String) :
    (c.withUrls url consoleUrl metricsUrl loggingUrl).withUrls url' consoleUrl' metricsUrl' loggingUrl' =
      c.withUrls url' consoleUrl' metricsUrl' loggingUrl' := rfl

@[simp] theorem withUrls_self (c : Cluster) :
    c.withUrls c.url c.consoleUrl c.metricsUrl c.loggingUrl = c := rfl

theorem normalize_eq_ok_iff :
    c.normalize = .ok n ↔ ∃ api consoleUrl metricsUrl loggingUrl,
      Endpoint.parse c.url = .ok api ∧
      besideApi api "console-url" c.consoleUrl = .ok consoleUrl ∧
      besideApi api "metrics-url" c.metricsUrl = .ok metricsUrl ∧
      besideApi api "logging-url" c.loggingUrl = .ok loggingUrl ∧
      n = c.withUrls (withSlash c.url) consoleUrl metricsUrl loggingUrl ∧ n.check = .ok () := by
  constructor
  · intro h
    obtain ⟨api, hapi, h⟩ := Json.of_bind_eq_ok h
    obtain ⟨console, hconsole, h⟩ := Json.of_bind_eq_ok h
    obtain ⟨metrics, hmetrics, h⟩ := Json.of_bind_eq_ok h
    obtain ⟨logging, hlogging, h⟩ := Json.of_bind_eq_ok h
    obtain ⟨u, hcheck, h⟩ := Json.of_bind_eq_ok h
    cases h
    exact ⟨api, console, metrics, logging, Json.of_mapError_eq_ok hapi, hconsole, hmetrics, hlogging,
      rfl, hcheck⟩
  · rintro ⟨api, console, metrics, logging, hapi, hconsole, hmetrics, hlogging, rfl, hcheck⟩
    have hparse : (Endpoint.parse c.url).mapError
        (fun why => Error.badParameter "api-url" (why.message c.url)) = .ok api := by
      rw [hapi]
      rfl
    simp only [normalize, hparse, bind, Except.bind, hconsole, hmetrics, hlogging]
    simp only [withUrls] at hcheck
    rw [hcheck]
    rfl

/-- An endpoint by which a cluster can be known: one with its final slash. -/
def IsKey (url : String) : Prop := withSlash url = url ∧ Endpoint.isValid url = true

theorem isKey_of_normalize (h : c.normalize = .ok n) : IsKey n.url := by
  obtain ⟨api, console, metrics, logging, -, -, -, -, rfl, hcheck⟩ := normalize_eq_ok_iff.1 h
  constructor
  · exact withSlash_withSlash c.url
  · exact (check_eq_ok_iff.1 hcheck).2 ("api-url", withSlash c.url) (by simp [Cluster.urls, withUrls])

theorem not_blank_of_check (h : c.check = .ok ()) : ∀ p ∈ c.urls, isBlankText p.2 = false := by
  intro p hp
  obtain ⟨u, hu⟩ := Endpoint.exists_of_isValid ((check_eq_ok_iff.1 h).2 p hp)
  exact Endpoint.not_blank_of_parse hu

/-- A valid cluster whose URLs have their final slash is its own normal form. -/
theorem normalize_eq_self (hcheck : c.check = .ok ())
    (hslash : ∀ p ∈ c.urls, withSlash p.2 = p.2) : c.normalize = .ok c := by
  have hbeside : ∀ api, ∀ p ∈ c.urls, besideApi api p.1 p.2 = .ok p.2 := by
    intro api p hp
    rw [besideApi, if_neg (by simp [not_blank_of_check hcheck p hp]), hslash p hp]
  simp only [Cluster.urls, List.forall_mem_cons] at hbeside hslash
  have hvalid := (check_eq_ok_iff.1 hcheck).2 ("api-url", c.url) (by simp [Cluster.urls])
  obtain ⟨api, hparse⟩ := Endpoint.exists_of_isValid hvalid
  obtain ⟨-, hconsole, hmetrics, hlogging, -⟩ := hbeside api
  refine normalize_eq_ok_iff.2 ⟨api, _, _, _, hparse, hconsole, hmetrics, hlogging, ?_, hcheck⟩
  rw [hslash.1]
  rfl

end Cluster

/-! ### Definitions -/

namespace Config.Record.Documented

variable {r : Record} {key s : String}

/-- What is said under the key of a URL has its final slash, unless it is blank. -/
theorem withSlash_of_url (h : r.Documented) (hkey : key ∈ Field.urls)
    (hs : r.value? key = some (.str s)) (hblank : isBlankText s = false) : withSlash s = s := by
  cases hg : Json.Fields.get? key r with
  | none => exact (h.isValid_of_missing hkey hg hs).1
  | some v =>
    rw [value?, if_pos hkey, filled?, hg] at hs
    obtain ⟨w, hw, hslash⟩ := Option.map_eq_some_iff.1 hs
    cases hw
    cases v with
    | str raw =>
      simp only [withFinalSlash] at hslash
      split at hslash
      · cases hslash
        rename_i hraw
        rw [hblank] at hraw
        cases hraw
      · cases hslash
        exact withSlash_withSlash raw
    | _ => cases hslash

end Config.Record.Documented

namespace Definition

variable {text : String} {s : Snapshot} {d : Definition}

theorem withSlash_of_ofText (h : ofText text = .ok s) (hd : d ∈ s.definitions) (id : Uuid)
    (tokenProvider : String) :
    ∀ p ∈ (d.withId id tokenProvider).urls, isBlankText p.2 = false → withSlash p.2 = p.2 := by
  obtain ⟨r, -, hdocumented, hdefines⟩ := exists_record h hd
  have hurls : ∀ p ∈ (d.withId id tokenProvider).urls,
      (p.1, .str p.2) ∈ d.toPairs ∧ p.1 ∈ Field.urls := by
    simp [Cluster.urls, withId, toPairs, Field.urls]
  intro p hp hblank
  obtain ⟨hpair, hkey⟩ := hurls p hp
  exact hdocumented.withSlash_of_url hkey (hdefines _ hpair) hblank

theorem isKey_of_ofText (h : ofText text = .ok s) (hd : d ∈ s.definitions) :
    Cluster.IsKey d.url := by
  obtain ⟨r, -, hdocumented, hdefines⟩ := exists_record h hd
  obtain ⟨s, hs, hblank⟩ := hdocumented.required ⟨"api-url", .text, true⟩ (by decide) rfl
  have hurl : d.url = withSlash s := by
    have hendpoint := hdefines.endpoint? hdocumented
    rw [Record.endpoint?, hs] at hendpoint
    exact (Option.some.inj hendpoint).symm
  rw [hurl]
  exact ⟨withSlash_withSlash s, hdocumented.urls "api-url" (by decide) s hs hblank⟩

theorem check_of_ofText (h : ofText text = .ok s) (hd : d ∈ s.definitions) (id : Uuid)
    (tokenProvider : String)
    (hurls : ∀ p ∈ (d.withId id tokenProvider).urls, isBlankText p.2 = false) :
    (d.withId id tokenProvider).check = .ok () := by
  have hadmissible : (d.withId id tokenProvider).Admissible fun _ => True :=
    Cluster.admissible_of_ofText trivial h hd id tokenProvider
  refine Cluster.check_eq_ok_iff.2 ⟨hadmissible.texts, ?_⟩
  intro p hp
  rcases hadmissible.urls p hp with hvalid | ⟨file, -, hblank, -⟩
  · exact hvalid
  · rw [hurls p hp] at hblank
    cases hblank

/-- **Definitions that leave no URL blank are in normal form**, under any identifier. -/
theorem normalize_of_ofText (h : ofText text = .ok s) (hd : d ∈ s.definitions) (id : Uuid)
    (tokenProvider : String)
    (hurls : ∀ p ∈ (d.withId id tokenProvider).urls, isBlankText p.2 = false) :
    (d.withId id tokenProvider).normalize = .ok (d.withId id tokenProvider) := by
  apply Cluster.normalize_eq_self (check_of_ofText h hd id tokenProvider hurls)
  intro p hp
  exact withSlash_of_ofText h hd id tokenProvider p hp (hurls p hp)

end Definition

/-! ### A cluster file that leaves no URL blank -/

namespace Config

def loopbackText : String :=
  "[\x7b\"name\":\"one\",\"api-url\":\"http://[::1]\"," ++
  "\"console-url\":\"http://[::1]/console\",\"metrics-url\":\"http://[::1]/metrics\"," ++
  "\"logging-url\":\"http://[::1]/logging\",\"app-dns\":\"one\"," ++
  "\"service-account-token\":\"token\",\"service-account-username\":\"user\"," ++
  "\"auth-client-id\":\"id\",\"auth-client-secret\":\"secret\"," ++
  "\"auth-client-default-scope\":\"scope\"\x7d]"

theorem parse_loopbackText : Json.parse loopbackText = .ok (.arr [.obj Record.loopback]) := by cbv

def loopbackSnapshot : Snapshot := snapshotOf (.arr [.obj Record.loopback])

theorem ofText_loopbackText : ofText loopbackText = .ok loopbackSnapshot :=
  ofText_of_isOk parse_loopbackText (by decide +kernel)

end Config

end Fleet
