/-
  Fleet/Proofs/Service/Validators.lean
  ====================================
  **A record is checked alike in a file and in a request.**

  A record in a cluster file is checked after it has got its defaults; all of its issues are looked
  for, and it is decoded if there are none.  The cluster with the values of the record
  (`Record.cluster`) may also come in a request.  Then it is brought into its normal form first, and
  the first thing that is wrong with it ends the matter.

  Both ways lead to the same (`Record.Readable.ofText_iff_normalize`).  They take what is missing
  from the same table (`Record.Readable.besideApi_eq_ok_iff`).  The request asks for one thing more,
  that the URL of the API is an endpoint as it is written; but a text that is one with its final
  slash is one without it (`Endpoint.parse_of_withSlash`).
-/
import Fleet.Proofs.Service.NormalForm

namespace Fleet

open Fleet.Text Fleet.Config
open Fleet.Json (Fields)

/-! ### The cluster that a record describes -/

namespace Config.Record

variable {r : Record} {key s : String}

/-- What a record says under a key, or else the default that needs no endpoint. -/
def given? (r : Record) (key : String) : Option Json :=
  (Fields.get? key r).or ((Field.defaults.lookup key).bind (·.value? none))

def textOf (r : Record) (key : String) : String := ((r.given? key).bind Json.str?).getD ""

def flagOf (r : Record) (key : String) : Bool := r.given? key matches some (.bool true)

def kindOf (r : Record) : Kind := (Kind.ofName? (r.textOf "type")).getD .oso

/-- The cluster with the values of a record.  Texts that are missing are empty, but for those that
    have a default which needs no endpoint. -/
def cluster (r : Record) (id : Uuid) : Cluster where
  name := r.textOf "name"
  url := r.textOf "api-url"
  consoleUrl := r.textOf "console-url"
  metricsUrl := r.textOf "metrics-url"
  loggingUrl := r.textOf "logging-url"
  appDns := r.textOf "app-dns"
  full := r.flagOf "capacity-exhausted"
  token := r.textOf "service-account-token"
  tokenUser := r.textOf "service-account-username"
  tokenEncrypted := r.flagOf "service-account-token-encrypted"
  clientId := r.textOf "auth-client-id"
  clientSecret := r.textOf "auth-client-secret"
  clientScope := r.textOf "auth-client-default-scope"
  tokenProvider := r.textOf "token-provider-id"
  kind := r.kindOf
  id := id

/-- The values are of their kinds, the type is one if it is there, and no endpoint beside that of
    the API is blank. -/
structure Readable (r : Record) : Prop where
  kinds : ∀ f ∈ Field.all, ∀ v, Fields.get? f.name r = some v → f.kind.admits v = true
  type : ∀ s, r.text? "type" = some s → ∃ k : Kind, s = k.name
  urls : ∀ key ∈ Field.urls, key ≠ "api-url" → ∀ s, r.text? key = some s → isBlankText s = false

/-! ### What the cluster has of the record -/

theorem value?_eq_given? (hkey : key ∉ Field.urls) : r.value? key = r.given? key := by
  have hdefault : (Field.defaults.lookup key).bind (·.value? r.api?) =
      (Field.defaults.lookup key).bind (·.value? none) := by
    cases hd : Field.defaults.lookup key with
    | none => rfl
    | some d =>
      cases d with
      | derived label path =>
        exact absurd (Field.url_of_derived (Field.mem_defaults_of_lookup hd)) hkey
      | text s => rfl
      | flag b => rfl
  rw [value?, if_neg hkey, filled?, given?, hdefault]

theorem textOf_of_value? (hkey : key ∉ Field.urls) (h : r.value? key = some (.str s)) :
    r.textOf key = s := by
  rw [value?_eq_given? hkey] at h
  rw [textOf, h]
  rfl

theorem flagOf_of_value? {b : Bool} (hkey : key ∉ Field.urls) (h : r.value? key = some (.bool b)) :
    r.flagOf key = b := by
  rw [value?_eq_given? hkey] at h
  rw [flagOf, h]
  cases b <;> rfl

theorem textOf_of_text? (h : r.text? key = some s) : r.textOf key = s := by
  rw [textOf, given?, get?_of_text? h]
  rfl

/-- A text that is not blank has been written, unless there is a default for it. -/
theorem text?_of_textOf (hkey : (Field.defaults.lookup key).bind (·.value? none) = none)
    (h : isBlankText (r.textOf key) = false) : r.text? key = some (r.textOf key) := by
  have hgiven : (r.given? key).bind Json.str? = r.text? key := by
    rw [given?, hkey, Option.or_none]
    rfl
  rw [textOf, hgiven] at h ⊢
  cases htext : r.text? key with
  | some s => rfl
  | none =>
    rw [htext] at h
    cases h

/-! ### The endpoints -/

theorem given?_of_url (hkey : key ∈ Field.urls) : r.given? key = Fields.get? key r := by
  have htable : ∀ key ∈ Field.urls, (Field.defaults.lookup key).bind (·.value? none) = none := by
    simp only [Field.urls, List.forall_mem_cons]
    exact ⟨rfl, rfl, rfl, rfl, List.forall_mem_nil _⟩
  rw [given?, htable key hkey, Option.or_none]

namespace Readable

variable {api : Url} {u : String}

theorem exists_text_of_url (h : r.Readable) (hkey : key ∈ Field.urls) {v : Json}
    (hv : Fields.get? key r = some v) : ∃ s, v = .str s := by
  have htable : ∀ key ∈ Field.urls, ∃ f ∈ Field.all, f.name = key ∧ f.kind = .text := by decide
  obtain ⟨f, hf, rfl, hkind⟩ := htable key hkey
  have hadmits := h.kinds f hf v hv
  rw [hkind] at hadmits
  exact FieldKind.admits_text hadmits

/-- **The request and the file put the same endpoint beside that of the API.** -/
theorem besideApi_eq_ok_iff (h : r.Readable) (hapi : r.api? = some api) (hkey : key ∈ Field.urls)
    (hne : key ≠ "api-url") :
    Cluster.besideApi api key (r.textOf key) = .ok u ↔ r.value? key = some (.str u) := by
  cases hg : Fields.get? key r with
  | some v =>
    obtain ⟨s, rfl⟩ := h.exists_text_of_url hkey hg
    have htext := text?_of_get? hg
    have hblank := h.urls key hkey hne s htext
    rw [value?_of_url hkey htext hblank, textOf_of_text? htext, Cluster.besideApi,
      if_neg (by simp [hblank])]
    simp
  | none =>
    obtain ⟨label, path, hd⟩ := Field.derived_of_ne hkey hne
    have htext : r.textOf key = "" := by
      rw [textOf, given?_of_url hkey, hg]
      rfl
    have hempty : isBlankText "" = true := rfl
    rw [value?_of_missing hg, if_pos hkey, htext, Cluster.besideApi, if_pos hempty, defaultUrl?,
      Field.lookup_of_mem_defaults hd]
    simp only [Option.bind_some, Default.value?, hapi]
    cases hderived : Endpoint.derive? api label path with
    | none => simp
    | some text =>
      -- what is derived has its final slash, so that the file adds none
      obtain ⟨hslash, -⟩ := isValid_of_api? hapi hd hderived
      have hblank : isBlankText text = false := hslash ▸ isBlankText_withSlash text
      simp [withFinalSlash, hblank, hslash]

/-! ### From the file to the request -/

theorem isBlankText_of_value? (h : r.Readable) (hr : r.Documented) (hkey : key ∈ Field.urls)
    (hs : r.value? key = some (.str s)) : isBlankText s = false := by
  rcases hr.url_cases hkey hs with ⟨hblank, -⟩ | ⟨hblank, htext⟩
  · exact hblank
  · by_cases hapi : key = "api-url"
    · subst hapi
      obtain ⟨s', hs', hfull⟩ := hr.required ⟨"api-url", .text, true⟩ (by decide) rfl
      rw [htext] at hs'
      cases hs'
      exact hfull
    · exact h.urls key hkey hapi s htext

end Readable

/-- The definition that comes from a record has what the cluster has, but for the endpoints. -/
theorem Defines.withId_eq {d : Definition} (h : r.Defines d) (id : Uuid) :
    d.withId id (r.cluster id).tokenProvider =
      (r.cluster id).withUrls d.url d.consoleUrl d.metricsUrl d.loggingUrl := by
  simp only [Defines, Definition.toPairs, List.forall_mem_cons] at h
  obtain ⟨hname, -, -, -, -, hdns, htoken, huser, hencrypted, hprovider, hid, hsecret, hscope, htype,
    hfull, -⟩ := h
  have hkind : r.kindOf = d.kind := by
    rw [kindOf, textOf_of_value? (by decide) htype, Kind.ofName?_name]
    rfl
  simp only [cluster, Definition.withId, Cluster.withUrls, hkind,
    textOf_of_value? (by decide) hname, textOf_of_value? (by decide) hdns,
    textOf_of_value? (by decide) htoken, textOf_of_value? (by decide) huser,
    textOf_of_value? (by decide) hid, textOf_of_value? (by decide) hsecret,
    textOf_of_value? (by decide) hscope, flagOf_of_value? (by decide) hencrypted,
    flagOf_of_value? (by decide) hfull]

theorem Documented.exists_api (h : r.Documented) :
    ∃ s api, r.text? "api-url" = some s ∧ Endpoint.parse s = .ok api := by
  obtain ⟨s, hs, hblank⟩ := h.required ⟨"api-url", .text, true⟩ (by decide) rfl
  have hvalid := h.urls "api-url" (by decide) s hs hblank
  obtain ⟨u, hparse⟩ := Endpoint.exists_of_isValid hvalid
  obtain ⟨api, hapi, -⟩ := Endpoint.parse_of_withSlash hparse
  exact ⟨s, api, hs, hapi⟩

/-- **The cluster of a record that a file may hold has a normal form**: what the file makes of it. -/
theorem Readable.normalize_of_defines (h : r.Readable) (hr : r.Documented) {d : Definition}
    (hd : r.Defines d) (id : Uuid) :
    (r.cluster id).normalize = .ok (d.withId id (r.cluster id).tokenProvider) := by
  obtain ⟨s, api, hs, hparse⟩ := hr.exists_api
  have hapi := api?_of_parse hs hparse
  have hurls : ∀ p ∈ (d.withId id (r.cluster id).tokenProvider).urls,
      p.1 ∈ Field.urls ∧ r.value? p.1 = some (.str p.2) := by
    simp only [Defines, Definition.toPairs, List.forall_mem_cons] at hd
    simp [Cluster.urls, Definition.withId, Field.urls, hd]
  have hbeside : ∀ p ∈ (d.withId id (r.cluster id).tokenProvider).urls, p.1 ≠ "api-url" →
      Cluster.besideApi api p.1 (r.textOf p.1) = .ok p.2 := by
    intro p hp hne
    exact (h.besideApi_eq_ok_iff hapi (hurls p hp).1 hne).2 (hurls p hp).2
  have hurl : d.url = withSlash s := by
    have hendpoint := hd.endpoint? hr
    rw [endpoint?, hs] at hendpoint
    exact (Option.some.inj hendpoint).symm
  have hcheck : (d.withId id (r.cluster id).tokenProvider).check = .ok () := by
    refine Cluster.check_eq_ok_iff.2 ⟨hd.requiredTexts hr id _, ?_⟩
    intro p hp
    obtain ⟨hkey, hvalue⟩ := hurls p hp
    exact hr.isValid_of_url hkey hvalue (h.isBlankText_of_value? hr hkey hvalue)
  simp only [Cluster.urls, List.forall_mem_cons] at hbeside
  obtain ⟨-, hconsole, hmetrics, hlogging, -⟩ := hbeside
  have htext : (r.cluster id).url = s := textOf_of_text? hs
  refine Cluster.normalize_eq_ok_iff.2 ⟨api, _, _, _, ?_, hconsole (by decide), hmetrics (by decide),
    hlogging (by decide), ?_, hcheck⟩
  · rw [htext]
    exact hparse
  · rw [htext, ← hurl]
    exact hd.withId_eq id

/-! ### From the request to the file -/

namespace Readable

variable {id : Uuid} {n : Cluster}

theorem isValid_of_normalize (h : r.Readable) (hn : (r.cluster id).normalize = .ok n) :
    ∀ key ∈ Field.urls, ∃ u, r.value? key = some (.str u) ∧ Endpoint.isValid u = true := by
  obtain ⟨api, console, metrics, logging, hparse, hconsole, hmetrics, hlogging, rfl, hcheck⟩ :=
    Cluster.normalize_eq_ok_iff.1 hn
  have hfull := Endpoint.not_blank_of_parse hparse
  have hwritten : r.text? "api-url" = some (r.textOf "api-url") := text?_of_textOf rfl hfull
  have hapi : r.api? = some api := api?_of_parse hwritten hparse
  have hurls := (Cluster.check_eq_ok_iff.1 hcheck).2
  simp only [Cluster.urls, Cluster.withUrls, List.forall_mem_cons] at hurls
  obtain ⟨hurl, hconsoleUrl, hmetricsUrl, hloggingUrl, -⟩ := hurls
  simp only [Field.urls, List.forall_mem_cons]
  refine ⟨⟨_, value?_of_url (by decide) hwritten hfull, hurl⟩, ⟨console, ?_, hconsoleUrl⟩,
    ⟨metrics, ?_, hmetricsUrl⟩, ⟨logging, ?_, hloggingUrl⟩, List.forall_mem_nil _⟩
  · exact (h.besideApi_eq_ok_iff hapi (by decide) (by decide)).1 hconsole
  · exact (h.besideApi_eq_ok_iff hapi (by decide) (by decide)).1 hmetrics
  · exact (h.besideApi_eq_ok_iff hapi (by decide) (by decide)).1 hlogging

/-- **A record whose cluster has a normal form is one that a file may hold.** -/
theorem documented_of_normalize (h : r.Readable) (hn : (r.cluster id).normalize = .ok n) :
    r.Documented := by
  have hvalid := h.isValid_of_normalize hn
  obtain ⟨api, _, _, _, hparse, -, -, -, rfl, hcheck⟩ := Cluster.normalize_eq_ok_iff.1 hn
  have htexts := (Cluster.check_eq_ok_iff.1 hcheck).1
  constructor
  · exact h.kinds
  · intro f hf hreq
    have hlisted : ∀ f ∈ Field.all, f.required = true → f.name = "api-url" ∨
        (f.name, r.textOf f.name) ∈ (r.cluster id).requiredTexts := by
      simp [Field.all, Cluster.requiredTexts, cluster]
    have hblank : isBlankText (r.textOf f.name) = false := by
      rcases hlisted f hf hreq with hname | hmem
      · rw [hname]
        exact Endpoint.not_blank_of_parse hparse
      · exact htexts _ hmem
    refine ⟨_, text?_of_textOf ?_ hblank, hblank⟩
    rw [(Field.text_of_required hf hreq).2]
    rfl
  · exact h.type
  · intro key hkey s hs hblank
    obtain ⟨u, hu, hu'⟩ := hvalid key hkey
    rw [value?_of_url hkey hs hblank] at hu
    cases hu
    exact hu'
  · intro key label path hd hmissing
    obtain ⟨u, hu, -⟩ := hvalid key (Field.url_of_derived hd)
    exact exists_derived hmissing hd (by rw [hu]; rfl)

end Readable

end Config.Record

/-! ### Files with one record -/

namespace Config

variable {r : Record} {text : String}

/-- A file with one record is loaded if the record is as documented, and then holds what the record
    defines; otherwise it is refused. -/
theorem ofText_of_record (h : Json.parse text = .ok (.arr [.obj r])) :
    (r.Documented ∧ ∃ s d, ofText text = .ok s ∧ s.definitions = [d] ∧ r.Defines d) ∨
      (¬ r.Documented ∧ ∃ why, ofText text = .error why) := by
  rw [ofText_of_parse h]
  by_cases hr : r.Documented
  · have hacceptable : Acceptable [r] :=
      ⟨List.cons_ne_nil r [], List.forall_mem_singleton.2 hr, List.nodup_singleton _⟩
    obtain ⟨ds, hload, hall, hperm⟩ :=
      ofJson_of_acceptable (.inl rfl) hacceptable (Json.isCanonical_of_parse h)
    obtain ⟨d, rest, hd, hrest, rfl⟩ := List.forall₂_cons_left_iff.1 hall
    obtain rfl : rest = [] := List.forall₂_nil_left_iff.1 hrest
    exact .inl ⟨hr, _, d, hload, List.perm_singleton.1 hperm, hd⟩
  · right
    have hdocument : ¬ Documented (.arr [.obj r]) := by
      rintro ⟨records, hlists | ⟨o, ho, -⟩, hacceptable⟩
      · have hmem : Json.obj r ∈ records.map Json.obj := by
          rw [← Json.arr.inj hlists]
          exact List.mem_singleton_self _
        obtain ⟨r', hr', he⟩ := List.mem_map.1 hmem
        cases he
        exact hr (hacceptable.documented r hr')
      · cases ho
    obtain ⟨issues, -, hissues⟩ := ofJson_of_not_documented hdocument
    exact ⟨hr, _, hissues⟩

/-- **A record is accepted in a file if its cluster is accepted in a request**, and both make the
    same of it. -/
theorem Record.Readable.ofText_iff_normalize (h : r.Readable)
    (hparse : Json.parse text = .ok (.arr [.obj r])) (id : Uuid) :
    ((∃ s, ofText text = .ok s) ↔ ∃ n, (r.cluster id).normalize = .ok n) ∧
      ∀ s n, ofText text = .ok s → (r.cluster id).normalize = .ok n →
        ∃ d, s.definitions = [d] ∧
          d.withId (r.cluster id).id (r.cluster id).tokenProvider = n := by
  rcases ofText_of_record hparse with ⟨hr, s, d, hload, hdefinitions, hd⟩ | ⟨hr, why, hload⟩
  · have hnormal := h.normalize_of_defines hr hd id
    refine ⟨⟨fun _ => ⟨_, hnormal⟩, fun _ => ⟨s, hload⟩⟩, ?_⟩
    intro s' n hs hn
    rw [hload] at hs
    rw [hnormal] at hn
    cases hs
    cases hn
    exact ⟨d, hdefinitions, rfl⟩
  · have hrefused : ∀ n, (r.cluster id).normalize ≠ .ok n := by
      intro n hn
      exact hr (h.documented_of_normalize hn)
    constructor
    · constructor
      · rintro ⟨s, hs⟩
        rw [hload] at hs
        cases hs
      · rintro ⟨n, hn⟩
        exact absurd hn (hrefused n)
    · intro s n hs hn
      exact absurd hn (hrefused n)

theorem Record.readable_loopback : Record.loopback.Readable where
  kinds := by decide
  type := by simp [text?, loopback, Fields.get?]
  urls := by decide

theorem loopbackText_iff_normalize :
    Record.loopback.Readable ∧ Json.parse loopbackText = .ok (.arr [.obj Record.loopback]) ∧
      (∃ s, ofText loopbackText = .ok s) ∧
      ((∃ s, ofText loopbackText = .ok s) ↔ ∃ n, (Record.loopback.cluster .nil).normalize = .ok n) ∧
      ∀ s n, ofText loopbackText = .ok s → (Record.loopback.cluster .nil).normalize = .ok n →
        ∃ d, s.definitions = [d] ∧
          d.withId .nil (Record.loopback.cluster .nil).tokenProvider = n :=
  ⟨Record.readable_loopback, parse_loopbackText, ⟨_, ofText_loopbackText⟩,
    Record.readable_loopback.ofText_iff_normalize parse_loopbackText .nil⟩

end Config

end Fleet
