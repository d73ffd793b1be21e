/-
  Fleet/Proofs/Service/Spelling.lean
  ==================================
  **How the URL of a cluster is spelt does not matter.**

  Two texts are spellings of one URL if they become the same text with a final slash.  Rows and
  definitions are looked up by that text, so for whatever only looks a cluster up there is nothing
  to tell the spellings apart.

  Saving a cluster and loading a record read the URL as it is written, and derive other endpoints
  from what they have read.  But if the text with its final slash names an endpoint, then so do both
  spellings, and the three of them have scheme, user, host and port in common
  (`Endpoint.parse_of_spelling`), which is all that derivation looks at (`Endpoint.derive?_congr`).
  So both spellings have one normal form (`Cluster.normalize_of_spelling`), and give the same values
  under all keys (`Respelt.value?_eq`).  If that text names no endpoint, both are refused.
-/
import Fleet.Proofs.Config.RoundTrip
import Fleet.Proofs.Config.Variants

namespace Fleet

open Fleet.Text Fleet.Config
open Fleet.Json (Fields)

variable {u v : String}

/-! ### Endpoints -/

namespace Endpoint

/-- **If one spelling with its final slash names an endpoint, all of them do**, with the same
    scheme, user, host and port. -/
theorem parse_of_spelling (h : withSlash u = withSlash v) (hu : isValid (withSlash u) = true) :
    ∃ api api', parse u = .ok api ∧ parse v = .ok api' ∧ api.scheme = api'.scheme ∧
      api.authority = api'.authority := by
  obtain ⟨w, hw⟩ := exists_of_isValid hu
  obtain ⟨api, hapi, hscheme, hauthority⟩ := parse_of_withSlash hw
  obtain ⟨api', hapi', hscheme', hauthority'⟩ := parse_of_withSlash (h ▸ hw)
  exact ⟨api, api', hapi, hapi', hscheme.trans hscheme'.symm, hauthority.trans hauthority'.symm⟩

end Endpoint

theorem Config.defaultUrl?_congr {api api' : Url} (hscheme : api.scheme = api'.scheme)
    (hauthority : api.authority = api'.authority) (field : String) :
    defaultUrl? field api = defaultUrl? field api' := by
  unfold defaultUrl?
  split
  · exact Endpoint.derive?_congr hscheme hauthority _ _
  · rfl

/-! ### Clusters -/

/-- **Spellings of one URL have one normal form.** -/
theorem Cluster.normalize_of_spelling (h : withSlash u = withSlash v) {c n : Cluster}
    (hn : { c with url := u }.normalize = .ok n) : { c with url := v }.normalize = .ok n := by
  obtain ⟨api, consoleUrl, metricsUrl, loggingUrl, hapi, hconsole, hmetrics, hlogging, rfl, hcheck⟩ :=
    normalize_eq_ok_iff.1 hn
  have hvalid : Endpoint.isValid (withSlash u) = true :=
    (check_eq_ok_iff.1 hcheck).2 ("api-url", withSlash u) (by simp [Cluster.urls, withUrls])
  obtain ⟨_, api', hsame, hapi', hscheme, hauthority⟩ := Endpoint.parse_of_spelling h hvalid
  rw [hapi] at hsame
  cases hsame
  have hbeside : ∀ field text, besideApi api' field text = besideApi api field text := by
    intro field text
    unfold besideApi
    rw [defaultUrl?_congr hscheme hauthority]
  refine normalize_eq_ok_iff.2 ⟨api', consoleUrl, metricsUrl, loggingUrl, hapi', ?_, ?_, ?_, ?_, hcheck⟩
  · rw [hbeside]
    exact hconsole
  · rw [hbeside]
    exact hmetrics
  · rw [hbeside]
    exact hlogging
  · simp only [withUrls, h]

/-- A request to save a cluster does the same for both spellings, or is refused for both. -/
theorem Service.save_of_spelling (h : withSlash u = withSlash v) (s : Service) (who : Caller)
    (c : Cluster) (r : Registry) :
    s.save who { c with url := u } r = s.save who { c with url := v } r ∨
      ∃ e e', s.save who { c with url := u } r = (.error e, r) ∧
        s.save who { c with url := v } r = (.error e', r) := by
  have hrefused : ∀ {c : Cluster} {e : Error}, c.normalize = .error e →
      ∃ e', s.save who c r = (.error e', r) := by
    intro c e hc
    unfold save change
    rw [hc]
    split
    · exact ⟨_, rfl⟩
    · exact ⟨_, rfl⟩
  cases hn : { c with url := u }.normalize with
  | ok n =>
    left
    rw [save, save, hn, Cluster.normalize_of_spelling h hn]
  | error e =>
    right
    cases hn' : { c with url := v }.normalize with
    | ok n =>
      rw [Cluster.normalize_of_spelling h.symm hn'] at hn
      cases hn
    | error e' =>
      obtain ⟨f, hf⟩ := hrefused hn
      obtain ⟨f', hf'⟩ := hrefused hn'
      exact ⟨f, f', hf, hf'⟩

/-! ### Records -/

namespace Config

/-- The same value, or one text in the place of the other as the URL of the API. -/
inductive Respelt (u v : String) (key : String) : Json → Json → Prop where
  | same (j : Json) : Respelt u v key j j
  | there (hkey : key = "api-url") : Respelt u v key (.str u) (.str v)
  | back (hkey : key = "api-url") : Respelt u v key (.str v) (.str u)

namespace Respelt

variable {key : String} {j j' : Json} {r r' : Record}

theorem symm (h : Respelt u v key j j') : Respelt u v key j' j := by
  cases h with
  | same => exact .same j
  | there hkey => exact .back hkey
  | back hkey => exact .there hkey

theorem eq_of_ne (h : Respelt u v key j j') (hkey : key ≠ "api-url") : j = j' := by
  cases h with
  | same => rfl
  | there h => exact absurd h hkey
  | back h => exact absurd h hkey

/-- In the place of a text stands a spelling of it. -/
theorem exists_text (hslash : withSlash u = withSlash v) {s : String}
    (h : Respelt u v key (.str s) j) : ∃ s', j = .str s' ∧ withSlash s = withSlash s' := by
  cases h with
  | same => exact ⟨s, rfl, rfl⟩
  | there => exact ⟨v, rfl, hslash⟩
  | back => exact ⟨u, rfl, hslash.symm⟩

theorem get?_eq (h : r.Variant (Respelt u v) r') (hkey : key ≠ "api-url") :
    Fields.get? key r' = Fields.get? key r := by
  rcases h.get?_cases key with ⟨hnone, hnone'⟩ | ⟨j, j', hj, hj', hrel⟩
  · rw [hnone, hnone']
  · rw [hj, hj', hrel.eq_of_ne hkey]

section Documented

variable (hslash : withSlash u = withSlash v) (h : r.Variant (Respelt u v) r') (hr : r.Documented)

include hslash h hr

/-- Both records name an endpoint of the API, and only its spelling differs. -/
theorem exists_api : ∃ s s' api api', r.text? "api-url" = some s ∧ r'.text? "api-url" = some s' ∧
    withSlash s = withSlash s' ∧ Endpoint.parse s = .ok api ∧ Endpoint.parse s' = .ok api' ∧
    api.scheme = api'.scheme ∧ api.authority = api'.authority := by
  obtain ⟨s, hs, hblank⟩ := hr.required ⟨"api-url", .text, true⟩ (by decide) rfl
  have hvalid := hr.urls "api-url" (by decide) s hs hblank
  rcases h.get?_cases "api-url" with ⟨hnone, -⟩ | ⟨j, j', hj, hj', hrel⟩
  · rw [Record.get?_of_text? hs] at hnone
    cases hnone
  · rw [Record.get?_of_text? hs] at hj
    cases hj
    obtain ⟨s', rfl, hspelling⟩ := hrel.exists_text hslash
    obtain ⟨api, api', hapi, hapi', hsame⟩ := Endpoint.parse_of_spelling hspelling hvalid
    exact ⟨s, s', api, api', hs, Record.text?_of_get? hj', hspelling, hapi, hapi', hsame⟩

/-- What is derived beside both endpoints is the same. -/
theorem default_eq (d : Default) : d.value? r'.api? = d.value? r.api? := by
  obtain ⟨s, s', api, api', hs, hs', -, hapi, hapi', hscheme, hauthority⟩ := exists_api hslash h hr
  have hr : r.api? = some api := by
    rw [Record.api?, hs, Option.bind_some, hapi]
    rfl
  have hr' : r'.api? = some api' := by
    rw [Record.api?, hs', Option.bind_some, hapi']
    rfl
  rw [hr, hr']
  cases d with
  | derived label path =>
    simp only [Default.value?, Option.bind_some, Endpoint.derive?_congr hscheme hauthority]
  | text _ => rfl
  | flag _ => rfl

/-- **Both records say the same under all keys once they have their defaults.** -/
theorem value?_eq (key : String) : r'.value? key = r.value? key := by
  by_cases hkey : key = "api-url"
  · obtain ⟨s, s', api, api', hs, hs', hspelling, hapi, hapi', -⟩ := exists_api hslash h hr
    have hurl : key ∈ Field.urls := hkey ▸ (by decide)
    subst hkey
    rw [Record.value?_of_url hurl hs (Endpoint.not_blank_of_parse hapi),
      Record.value?_of_url hurl hs' (Endpoint.not_blank_of_parse hapi'), hspelling]
  · have hfilled : r'.filled? key = r.filled? key := by
      rw [Record.filled?, Record.filled?, get?_eq h hkey]
      congr 2
      funext d
      exact default_eq hslash h hr d
    rw [Record.value?, Record.value?, hfilled]

theorem documented : r'.Documented := by
  obtain ⟨s, s', api, api', hs, hs', hspelling, hapi, hapi', -⟩ := exists_api hslash h hr
  have htext : ∀ key, key ≠ "api-url" → r'.text? key = r.text? key := by
    intro key hkey
    rw [Record.text?, get?_eq h hkey, Record.text?]
  refine ⟨?_, ?_, ?_, ?_, ?_⟩
  · intro f hf j' hj'
    by_cases hkey : f.name = "api-url"
    · rw [hkey, Record.get?_of_text? hs'] at hj'
      cases hj'
      have hadmits := hr.kinds f hf (.str s) (hkey ▸ Record.get?_of_text? hs)
      cases hkind : f.kind with
      | text => rfl
      | flag =>
        rw [hkind] at hadmits
        cases hadmits
    · rw [get?_eq h hkey] at hj'
      exact hr.kinds f hf j' hj'
  · intro f hf hreq
    by_cases hkey : f.name = "api-url"
    · rw [hkey]
      exact ⟨s', hs', Endpoint.not_blank_of_parse hapi'⟩
    · rw [htext f.name hkey]
      exact hr.required f hf hreq
  · intro t ht
    rw [htext "type" (by decide)] at ht
    exact hr.type t ht
  · intro key hurl t ht hblank
    by_cases hkey : key = "api-url"
    · subst hkey
      rw [hs'] at ht
      cases ht
      rw [← hspelling]
      exact hr.urls "api-url" hurl s hs (Endpoint.not_blank_of_parse hapi)
    · rw [htext key hkey] at ht
      exact hr.urls key hurl t ht hblank
  · intro key label path hd hmissing
    have hne : key ≠ "api-url" := by
      rintro rfl
      rw [Record.get?_of_text? hs'] at hmissing
      cases hmissing
    rw [get?_eq h hne] at hmissing
    have hdefault := hr.isSome_default hd hmissing
    rw [← default_eq hslash h hr] at hdefault
    simpa [Default.value?, Option.isSome_iff_exists, Option.bind_eq_some_iff] using hdefault

end Documented

theorem transfers (hslash : withSlash u = withSlash v) : Transfers (Respelt u v) where
  refl _ j := .same j
  documented h hr := documented hslash h hr
  endpoint? {r r'} h hr := by
    obtain ⟨s, s', api, api', hs, hs', hspelling, -⟩ := exists_api hslash h hr
    rw [Record.endpoint?, Record.endpoint?, hs, hs', Option.map_some, Option.map_some, hspelling]

end Respelt

/-- With a document its respellings are loaded, and they have the same snapshot. -/
theorem ofJson_of_respelt (hslash : withSlash u = withSlash v) {document document' : Json} {s : Snapshot}
    (hdocument : document.IsCanonical) (hdocument' : document'.IsCanonical)
    (h : DocumentVariant (Respelt u v) document document') (hs : ofJson document = .ok s) :
    ofJson document' = .ok s := by
  have hdocumented := (ofJson_ok_iff_documented hdocument).1.1 ⟨s, hs⟩
  obtain ⟨ds, ds', hds, hds', hall⟩ :=
    (Respelt.transfers hslash).exists_definitions h hdocument hdocument' hdocumented
  have hsame : List.Forall₂ (· = ·) ds ds' := by
    refine hall.imp ?_
    rintro d d' ⟨r, r', hboth⟩
    have hdefines : r'.Defines d := by
      intro p hp
      rw [Respelt.value?_eq hslash hboth.variant hboth.documented]
      exact hboth.defines p hp
    exact hdefines.eq hboth.defines'
  rw [List.forall₂_eq_eq_eq] at hsame
  rw [hds', ← hsame, ← hds, hs]

/-- **A document is loaded in both spellings or in neither**, and with the same snapshot. -/
theorem toOption_ofJson_of_respelt (hslash : withSlash u = withSlash v) {document document' : Json}
    (hdocument : document.IsCanonical) (hdocument' : document'.IsCanonical)
    (h : DocumentVariant (Respelt u v) document document') :
    (ofJson document).toOption = (ofJson document').toOption := by
  have hsymm := h.symm fun _ _ _ h => h.symm
  cases hs : ofJson document with
  | ok s => rw [ofJson_of_respelt hslash hdocument hdocument' h hs]
  | error why =>
    cases hs' : ofJson document' with
    | ok s =>
      rw [ofJson_of_respelt hslash hdocument' hdocument hsymm hs'] at hs
      cases hs
    | error why' => rfl

end Config

/-! ### All of it -/

/-- Whatever is done with a URL, it is the same for both spellings. -/
structure SameUrl (u v : String) : Prop where
  find : ∀ r, Service.find u r = Service.find v r
  link : ∀ (s : Service) who identity ignoreExisting r,
    s.link who identity u ignoreExisting r = s.link who identity v ignoreExisting r
  unlink : ∀ (s : Service) who identity r, s.unlink who identity u r = s.unlink who identity v r
  get? : ∀ s : Snapshot, s.get? u = s.get? v
  /-- The same answer and the same registry afterwards, unless both are refused. -/
  save : ∀ (s : Service) who (c : Cluster) r,
    s.save who { c with url := u } r = s.save who { c with url := v } r ∨
      ∃ e e', s.save who { c with url := u } r = (.error e, r) ∧
        s.save who { c with url := v } r = (.error e', r)
  /-- The same snapshot, unless both are refused. -/
  load : ∀ {document document' : Json}, document.IsCanonical → document'.IsCanonical →
    DocumentVariant (Respelt u v) document document' →
      (ofJson document).toOption = (ofJson document').toOption

/-- **Texts that become the same with a final slash are the same URL** to the registry and to
    cluster files. -/
theorem sameUrl_of_withSlash_eq (h : withSlash u = withSlash v) : SameUrl u v where
  find r := by rw [Service.find, Service.find, h]
  link s who identity ignoreExisting r := by rw [Service.link, Service.link, h]
  unlink s who identity r := by rw [Service.unlink, Service.unlink, h]
  get? s := by rw [Snapshot.get?, Snapshot.get?, h]
  save s who c r := Service.save_of_spelling h s who c r
  load hdocument hdocument' hvariant := toOption_ofJson_of_respelt h hdocument hdocument' hvariant

theorem loopback_sameUrl :
    withSlash "http://[::1]" = withSlash " http://[::1]/\t" ∧ SameUrl "http://[::1]" " http://[::1]/\t" :=
  have h : withSlash "http://[::1]" = withSlash " http://[::1]/\t" := by decide +kernel
  ⟨h, sameUrl_of_withSlash_eq h⟩

end Fleet
