/-
  Fleet/Proofs/Config/Checks.lean
  ===============================
  **The checks of a record find nothing exactly when it is as documented.**

  `Record.Documented` says what the documentation asks of a record, in terms of the record as it
  is written.  The checks look at it twice: at the kinds of its values as they are written, and
  at the values themselves once the record has its defaults.  A default never fails a check:
  those that are texts or flags are of the kind of their field, and an endpoint that could be
  derived is an endpoint (`Endpoint.isValid_of_derive?`).  So the second look comes down to the
  values that are written (`Record.issues_eq_nil_iff`).
-/
import Fleet.Proofs.Config.Defaults
import Fleet.Proofs.Config.Decoding

namespace Fleet.Config

open Fleet.Text
open Fleet.Json (Fields)

/-! ### Facts about the tables -/

theorem Field.text_of_required {f : Field} (hf : f ∈ all) (h : f.required = true) :
    f.kind = .text ∧ defaults.lookup f.name = none := by
  have htable : ∀ f ∈ all, f.required = true → f.kind = .text ∧ defaults.lookup f.name = none := by
    decide
  exact htable f hf h

theorem Field.default_of_not_required {f : Field} (hf : f ∈ all) (h : f.required = false) :
    ∃ d, (f.name, d) ∈ defaults ∧ defaults.lookup f.name = some d := by
  have htable : ∀ f ∈ all, f.required = false →
      ∃ p ∈ defaults, p.1 = f.name ∧ defaults.lookup f.name = some p.2 := by decide
  obtain ⟨p, hp, hname, hlookup⟩ := htable f hf h
  exact ⟨p.2, hname ▸ hp, hlookup⟩

theorem Field.mem_defaults_of_lookup {key : String} {d : Default}
    (h : defaults.lookup key = some d) : (key, d) ∈ defaults := by
  obtain ⟨l₁, l₂, hl, -⟩ := List.lookup_eq_some_iff.1 h
  rw [hl]
  exact List.mem_append_right _ List.mem_cons_self

theorem Field.lookup_of_mem_defaults {key : String} {d : Default} (h : (key, d) ∈ defaults) :
    defaults.lookup key = some d := by
  have htable : ∀ p ∈ defaults, defaults.lookup p.1 = some p.2 := by decide
  exact htable _ h

/-- The kind of the value that a default gives. -/
def Default.kind : Default → FieldKind
  | .derived _ _ => .text
  | .text _ => .text
  | .flag _ => .flag

theorem Default.admits_of_value? {api : Option Url} {d : Default} {v : Json}
    (h : d.value? api = some v) : d.kind.admits v = true := by
  cases d with
  | derived label path =>
    obtain ⟨s, -, rfl⟩ := Option.map_eq_some_iff.1 h
    rfl
  | text s => cases h; rfl
  | flag b => cases h; rfl

theorem Field.kind_of_mem_defaults {f : Field} {d : Default} (hf : f ∈ all)
    (hd : (f.name, d) ∈ defaults) : d.kind = f.kind := by
  have htable : ∀ f ∈ all, ∀ p ∈ defaults, p.1 = f.name → p.2.kind = f.kind := by decide
  exact htable f hf _ hd rfl

/-- Only derived endpoints stand in for URLs. -/
theorem Field.derived_of_url {key : String} {d : Default} (hkey : key ∈ urls)
    (hd : (key, d) ∈ defaults) : ∃ label path, d = .derived label path := by
  have htable : ∀ p ∈ defaults, p.1 ∈ urls →
      ∃ rule ∈ [("console", "/console/"), ("metrics", "/")], p.2 = .derived rule.1 rule.2 := by
    decide
  obtain ⟨rule, -, hrule⟩ := htable _ hd hkey
  exact ⟨rule.1, rule.2, hrule⟩

theorem Field.derived_of_ne {key : String} (hkey : key ∈ urls) (hne : key ≠ "api-url") :
    ∃ label path, (key, Default.derived label path) ∈ defaults := by
  have htable : ∀ key ∈ urls, key ≠ "api-url" →
      ∃ rule ∈ [("console", "/console/"), ("metrics", "/")],
        (key, Default.derived rule.1 rule.2) ∈ defaults := by
    decide
  obtain ⟨rule, -, hrule⟩ := htable key hkey hne
  exact ⟨rule.1, rule.2, hrule⟩

theorem Field.url_of_derived {key label path : String}
    (hd : (key, Default.derived label path) ∈ defaults) : key ∈ urls := by
  have htable : ∀ p ∈ defaults, p.1 ∉ urls → (p.2.value? none).isSome = true := by decide
  by_contra hkey
  cases htable _ hd hkey

/-! ### Texts with a final slash -/

theorem isBlankText_withSlash (s : String) : isBlankText (withSlash s) = false := by
  have hslash : '/' ∈ (withSlash s).toList := by
    rw [withSlash, String.toList_ofList, slashed]
    split
    · rename_i h
      exact List.mem_of_getLast? h
    · simp
  exact List.all_eq_false.2 ⟨'/', hslash, by decide⟩

namespace Record

variable {r : Record} {key s : String}

/-! ### What a record says that has its defaults -/

theorem get?_of_text? (h : r.text? key = some s) : Fields.get? key r = some (.str s) := by
  obtain ⟨v, hv, hs⟩ := Option.bind_eq_some_iff.1 h
  cases v <;> cases hs
  exact hv

theorem text?_of_get? (h : Fields.get? key r = some (.str s)) : r.text? key = some s := by
  rw [text?, h]
  rfl

theorem text?_withDefaults (r : Record) (key : String) :
    r.withDefaults.text? key = (r.value? key).bind Json.str? := by
  rw [text?, get?_withDefaults]

theorem value?_of_get? {v : Json} (hkey : key ∉ Field.urls) (h : Fields.get? key r = some v) :
    r.value? key = some v := by
  rw [value?, if_neg hkey, filled?, h]
  rfl

theorem value?_of_text? (hkey : key ∈ Field.urls) (h : r.text? key = some s) :
    r.value? key = some (.str (if isBlankText s then s else withSlash s)) := by
  rw [value?, if_pos hkey, filled?, get?_of_text? h]
  simp only [Option.some_or, Option.map_some, withFinalSlash]
  split <;> rfl

theorem value?_of_url (hkey : key ∈ Field.urls) (h : r.text? key = some s)
    (hs : isBlankText s = false) : r.value? key = some (.str (withSlash s)) := by
  rw [value?_of_text? hkey h, if_neg (by simp [hs])]

theorem exists_value?_of_text? (h : r.text? key = some s) (hs : isBlankText s = false) :
    ∃ s', r.value? key = some (.str s') ∧ isBlankText s' = false := by
  by_cases hkey : key ∈ Field.urls
  · exact ⟨withSlash s, value?_of_url hkey h hs, isBlankText_withSlash s⟩
  · exact ⟨s, value?_of_get? hkey (get?_of_text? h), hs⟩

theorem admits_withFinalSlash (kind : FieldKind) (v : Json) :
    kind.admits (withFinalSlash v) = kind.admits v := by
  cases v with
  | str s =>
    rw [withFinalSlash]
    split <;> cases kind <;> rfl
  | _ => rfl

theorem value?_of_missing (h : Fields.get? key r = none) :
    r.value? key = if key ∈ Field.urls then
      ((Field.defaults.lookup key).bind (·.value? r.api?)).map withFinalSlash
      else (Field.defaults.lookup key).bind (·.value? r.api?) := by
  rw [value?, filled?, h, Option.none_or]

theorem isSome_value? (r : Record) (key : String) :
    (r.value? key).isSome = (r.filled? key).isSome := by
  unfold value?
  split <;> simp

/-- An endpoint that is there in the end and has not been written has been derived. -/
theorem exists_derived {label path : String} (hmissing : Fields.get? key r = none)
    (hd : (key, Default.derived label path) ∈ Field.defaults) (h : (r.value? key).isSome = true) :
    ∃ api text, r.api? = some api ∧ Endpoint.derive? api label path = some text := by
  rw [isSome_value?, filled?, hmissing, Option.none_or, Field.lookup_of_mem_defaults hd] at h
  simpa [Default.value?, Option.isSome_iff_exists, Option.bind_eq_some_iff] using h

/-! ### The documented format -/

/-- What the documentation asks of a record. -/
structure Documented (r : Record) : Prop where
  /-- What stands under a known key is of the kind of its field. -/
  kinds : ∀ f ∈ Field.all, ∀ v, Fields.get? f.name r = some v → f.kind.admits v = true
  /-- Required texts are there and not blank. -/
  required : ∀ f ∈ Field.all, f.required = true →
    ∃ s, r.text? f.name = some s ∧ isBlankText s = false
  /-- The type, if there is one, is a kind of deployment. -/
  type : ∀ s, r.text? "type" = some s → ∃ k : Kind, s = k.name
  /-- URLs that are not blank are endpoints once they have their final slash. -/
  urls : ∀ key ∈ Field.urls, ∀ s, r.text? key = some s → isBlankText s = false →
    Endpoint.isValid (withSlash s) = true
  /-- Endpoints that are missing can be derived from that of the API as it is written. -/
  derived : ∀ key label path, (key, Default.derived label path) ∈ Field.defaults →
    Fields.get? key r = none →
    ∃ api text, r.api? = some api ∧ Endpoint.derive? api label path = some text

/-- What is derived from the endpoint of the API is an endpoint with its final slash. -/
theorem isValid_of_api? {api : Url} {label path text : String} (hapi : r.api? = some api)
    (hd : (key, Default.derived label path) ∈ Field.defaults)
    (htext : Endpoint.derive? api label path = some text) :
    withSlash text = text ∧ Endpoint.isValid text = true := by
  obtain ⟨s, -, hs⟩ := Option.bind_eq_some_iff.1 hapi
  have hparse : Endpoint.parse s = .ok api := by
    cases hp : Endpoint.parse s with
    | ok u => rw [hp] at hs; exact congrArg Except.ok (Option.some.inj hs)
    | error why => rw [hp] at hs; cases hs
  exact Endpoint.isValid_of_derive? (Endpoint.tidy_of_parse hparse)
    (Endpoint.isRule_of_mem_defaults hd) htext

theorem api?_of_parse {api : Url} (hs : r.text? "api-url" = some s)
    (hapi : Endpoint.parse s = .ok api) : r.api? = some api := by
  rw [api?, hs, Option.bind_some, hapi]
  rfl

namespace Documented

theorem isSome_default (h : r.Documented) {d : Default} (hd : (key, d) ∈ Field.defaults)
    (hmissing : Fields.get? key r = none) : (d.value? r.api?).isSome = true := by
  cases d with
  | derived label path =>
    obtain ⟨api, text, hapi, htext⟩ := h.derived key label path hd hmissing
    simp [Default.value?, hapi, htext]
  | text s => rfl
  | flag b => rfl

theorem complete (h : r.Documented) {f : Field} (hf : f ∈ Field.all) :
    (r.value? f.name).isSome = true := by
  rw [isSome_value?, filled?]
  cases hg : Fields.get? f.name r with
  | some v => rfl
  | none =>
    cases hreq : f.required with
    | true =>
      obtain ⟨s, hs, -⟩ := h.required f hf hreq
      rw [get?_of_text? hs] at hg
      cases hg
    | false =>
      obtain ⟨d, hd, hlookup⟩ := Field.default_of_not_required hf hreq
      simpa [hlookup] using h.isSome_default hd hg

theorem fits (h : r.Documented) {v : Json} (hv : r.value? key = some v) : Fits key v := by
  refine ⟨fun f hf hname => ?_, fun htype => ?_⟩
  · subst hname
    have hfilled : ∃ w, r.filled? f.name = some w ∧ f.kind.admits v = f.kind.admits w := by
      rw [value?] at hv
      split at hv
      · obtain ⟨w, hw, rfl⟩ := Option.map_eq_some_iff.1 hv
        exact ⟨w, hw, admits_withFinalSlash f.kind w⟩
      · exact ⟨v, hv, rfl⟩
    obtain ⟨w, hw, hadmits⟩ := hfilled
    rw [hadmits]
    rcases Option.or_eq_some_iff.1 hw with hw | ⟨-, hw⟩
    · exact h.kinds f hf w hw
    · obtain ⟨d, hd, hw⟩ := Option.bind_eq_some_iff.1 hw
      exact Field.kind_of_mem_defaults hf (Field.mem_defaults_of_lookup hd) ▸
        Default.admits_of_value? hw
  · subst htype
    cases hg : Fields.get? "type" r with
    | some w =>
      rw [value?_of_get? (by decide) hg] at hv
      cases hv
      obtain ⟨s, rfl⟩ := FieldKind.admits_text (h.kinds ⟨"type", .text, false⟩ (by decide) _ hg)
      obtain ⟨k, rfl⟩ := h.type s (text?_of_get? hg)
      exact ⟨k, rfl⟩
    | none =>
      rw [value?_of_missing hg, if_neg (by decide)] at hv
      cases hv
      exact ⟨.oso, rfl⟩

/-- What stands in for a missing URL is an endpoint with its final slash. -/
theorem isValid_of_missing (h : r.Documented) (hkey : key ∈ Field.urls)
    (hmissing : Fields.get? key r = none) (hs : r.value? key = some (.str s)) :
    withSlash s = s ∧ Endpoint.isValid s = true := by
  rw [value?_of_missing hmissing, if_pos hkey] at hs
  obtain ⟨v, hv, hslash⟩ := Option.map_eq_some_iff.1 hs
  obtain ⟨d, hd, hv⟩ := Option.bind_eq_some_iff.1 hv
  have hd := Field.mem_defaults_of_lookup hd
  obtain ⟨label, path, rfl⟩ := Field.derived_of_url hkey hd
  obtain ⟨api, text, hapi, htext⟩ := h.derived key label path hd hmissing
  have hvalid := isValid_of_api? hapi hd htext
  simp only [Default.value?, hapi, Option.bind_some, htext, Option.map_some, Option.some.injEq] at hv
  subst hv
  have hfilled : isBlankText text = false := hvalid.1 ▸ isBlankText_withSlash text
  rw [withFinalSlash, if_neg (by simp [hfilled]), hvalid.1] at hslash
  cases hslash
  exact hvalid

/-- A text under the key of a URL is an endpoint in the end, or it is blank and has been written
    like that. -/
theorem url_cases (h : r.Documented) (hkey : key ∈ Field.urls)
    (hs : r.value? key = some (.str s)) :
    (isBlankText s = false ∧ Endpoint.isValid s = true) ∨
      (isBlankText s = true ∧ r.text? key = some s) := by
  cases hg : Fields.get? key r with
  | some v =>
    rw [value?, if_pos hkey, filled?, hg] at hs
    cases v <;> simp only [Option.some_or, Option.map_some, withFinalSlash, Option.some.injEq,
      reduceCtorEq] at hs
    rename_i raw
    split at hs
    · rename_i hraw
      cases hs
      exact .inr ⟨hraw, text?_of_get? hg⟩
    · rename_i hraw
      cases hs
      exact .inl ⟨isBlankText_withSlash raw,
        h.urls key hkey raw (text?_of_get? hg) (by simpa using hraw)⟩
  | none =>
    obtain ⟨hslash, hvalid⟩ := h.isValid_of_missing hkey hg hs
    exact .inl ⟨hslash ▸ isBlankText_withSlash s, hvalid⟩

theorem isValid_of_url (h : r.Documented) (hkey : key ∈ Field.urls)
    (hs : r.value? key = some (.str s)) (hblank : isBlankText s = false) :
    Endpoint.isValid s = true := by
  rcases h.url_cases hkey hs with ⟨-, hvalid⟩ | ⟨hb, -⟩
  · exact hvalid
  · rw [hblank] at hb
    cases hb

end Documented

/-! ### The single checks -/

theorem kindIssues_eq_nil_iff (index : Nat) : r.kindIssues index = [] ↔
    ∀ f ∈ Field.all, ∀ v, Fields.get? f.name r = some v → f.kind.admits v = true := by
  rw [kindIssues, List.filterMap_eq_nil_iff]
  refine forall₂_congr fun f _ => ?_
  cases Fields.get? f.name r with
  | none => simp
  | some v => simp

theorem requiredIssues_eq_nil_iff (index : Nat) : r.requiredIssues index = [] ↔
    ∀ f ∈ Field.all, f.required = true → ∃ v, Fields.get? f.name r = some v ∧
      ∀ s, v = .str s → isBlankText s = false := by
  rw [requiredIssues, List.filterMap_eq_nil_iff]
  simp only [List.mem_filter, and_imp]
  refine forall₃_congr fun f _ _ => ?_
  cases Fields.get? f.name r with
  | none => simp
  | some v => cases v <;> simp

theorem typeIssues_eq_nil_iff (index : Nat) : r.typeIssues index = [] ↔
    ∀ s, r.text? "type" = some s → (Kind.ofName? s).isSome = true := by
  rw [typeIssues]
  cases r.text? "type" with
  | none => simp
  | some s => simp [Option.isSome_iff_ne_none]

theorem urlIssues_eq_nil_iff (index : Nat) : r.urlIssues index = [] ↔
    ∀ key ∈ Field.urls, ∀ s, r.text? key = some s → isBlankText s = false →
      Endpoint.isValid s = true := by
  rw [urlIssues, List.filterMap_eq_nil_iff]
  refine forall₂_congr fun key _ => ?_
  cases r.text? key with
  | none => simp
  | some s =>
    cases hb : isBlankText s with
    | true => simp [hb]
    | false => cases hp : Endpoint.parse s <;> simp [hb, hp, Endpoint.isValid, Except.isOk, Except.toBool]

theorem derivedIssues_eq_nil_iff (index : Nat) : r.derivedIssues index = [] ↔
    ∀ s, r.text? "api-url" = some s → Endpoint.isValid s = true →
      ∀ key label path, (key, Default.derived label path) ∈ Field.defaults →
        Fields.has key r = true := by
  rw [derivedIssues]
  cases r.text? "api-url" with
  | none => simp
  | some s =>
    cases hv : Endpoint.isValid s with
    | false => simp [hv]
    | true =>
      simp only [hv, if_true, List.filterMap_eq_nil_iff, Option.some.injEq]
      constructor
      · rintro h _ rfl _ key label path hd
        simpa using h _ hd
      · rintro h ⟨key, d⟩ hd
        cases d with
        | derived label path => simp [h s rfl hv key label path hd]
        | text _ => rfl
        | flag _ => rfl

/-! ### All checks -/

theorem value?_of_text?_withDefaults (h : r.withDefaults.text? key = some s) :
    r.value? key = some (.str s) := by
  rw [← get?_withDefaults]
  exact get?_of_text? h

/-- A required text that is there in the end has been written. -/
theorem exists_text?_of_value? {f : Field} {v : Json} (hf : f ∈ Field.all)
    (hreq : f.required = true) (hkind : ∀ w, Fields.get? f.name r = some w → f.kind.admits w = true)
    (hv : r.value? f.name = some v) (hblank : ∀ s, v = .str s → isBlankText s = false) :
    ∃ s, r.text? f.name = some s ∧ isBlankText s = false := by
  obtain ⟨htext, hlookup⟩ := Field.text_of_required hf hreq
  cases hg : Fields.get? f.name r with
  | none => simp [value?_of_missing hg, hlookup] at hv
  | some w =>
    obtain ⟨s, rfl⟩ := FieldKind.admits_text (htext ▸ hkind w hg)
    refine ⟨s, text?_of_get? hg, ?_⟩
    cases hs : isBlankText s with
    | false => rfl
    | true =>
      -- a blank text would have stayed as it is
      have hkept : v = .str s := by
        by_cases hurl : f.name ∈ Field.urls
        · simpa [value?_of_text? hurl (text?_of_get? hg), hs, eq_comm] using hv
        · simpa [value?_of_get? hurl hg, eq_comm] using hv
      exact hs ▸ hblank s hkept

theorem documented_of_issues_eq_nil {index : Nat} (h : r.issues index = []) : r.Documented := by
  simp only [issues, valueIssues, List.append_eq_nil_iff] at h
  obtain ⟨hkinds, ⟨⟨hrequired, htype⟩, hurls⟩, hderived⟩ := h
  rw [kindIssues_eq_nil_iff] at hkinds
  rw [requiredIssues_eq_nil_iff] at hrequired
  rw [typeIssues_eq_nil_iff] at htype
  rw [urlIssues_eq_nil_iff] at hurls
  rw [derivedIssues_eq_nil_iff] at hderived
  simp only [get?_withDefaults, text?_withDefaults] at hrequired htype hurls hderived
  have hwritten : ∀ f ∈ Field.all, f.required = true →
      ∃ s, r.text? f.name = some s ∧ isBlankText s = false := by
    intro f hf hreq
    obtain ⟨v, hv, hblank⟩ := hrequired f hf hreq
    exact exists_text?_of_value? hf hreq (hkinds f hf) hv hblank
  refine ⟨hkinds, hwritten, ?_, ?_, ?_⟩
  · intro s hs
    have hs' := value?_of_get? (by decide) (get?_of_text? hs)
    obtain ⟨k, hk⟩ := Option.isSome_iff_exists.1 (htype s (by rw [hs']; rfl))
    have hname : k.name = s := by simpa using List.find?_some hk
    exact ⟨k, hname.symm⟩
  · intro key hkey s hs hblank
    have hs' := value?_of_url hkey hs hblank
    exact hurls key hkey _ (by rw [hs']; rfl) (isBlankText_withSlash s)
  · intro key label path hd hmissing
    obtain ⟨s, hs, hblank⟩ := hwritten ⟨"api-url", .text, true⟩ (by decide) rfl
    have hs' := value?_of_url (by decide) hs hblank
    have hvalid := hurls "api-url" (by decide) _ (by rw [hs']; rfl) (isBlankText_withSlash s)
    have hthere := hderived _ (by rw [hs']; rfl) hvalid key label path hd
    rw [Fields.has, get?_withDefaults] at hthere
    exact exists_derived hmissing hd hthere

theorem Documented.issues_eq_nil (h : r.Documented) (index : Nat) : r.issues index = [] := by
  simp only [issues, valueIssues, List.append_eq_nil_iff, kindIssues_eq_nil_iff,
    requiredIssues_eq_nil_iff, typeIssues_eq_nil_iff, urlIssues_eq_nil_iff,
    derivedIssues_eq_nil_iff, get?_withDefaults]
  refine ⟨h.kinds, ⟨⟨?_, ?_⟩, ?_⟩, ?_⟩
  · intro f hf hreq
    obtain ⟨s, hs, hblank⟩ := h.required f hf hreq
    obtain ⟨s', hs', hblank'⟩ := exists_value?_of_text? hs hblank
    refine ⟨_, hs', fun t ht => ?_⟩
    cases ht
    exact hblank'
  · intro s hs
    obtain ⟨k, hk⟩ := (h.fits (value?_of_text?_withDefaults hs)).2 rfl
    cases hk
    simp
  · intro key hkey s hs hblank
    exact h.isValid_of_url hkey (value?_of_text?_withDefaults hs) hblank
  · intro s hs hvalid key label path hd
    have hthere : (r.value? key).isSome = true := by
      rw [isSome_value?, filled?]
      cases hg : Fields.get? key r with
      | some v => rfl
      | none => simpa [Field.lookup_of_mem_defaults hd] using h.isSome_default hd hg
    rw [Fields.has, get?_withDefaults, hthere]

/-- **The checks of a record find nothing exactly when it is as documented.** -/
theorem issues_eq_nil_iff (index : Nat) : r.issues index = [] ↔ r.Documented :=
  ⟨documented_of_issues_eq_nil, fun h => h.issues_eq_nil index⟩

end Record

end Fleet.Config
