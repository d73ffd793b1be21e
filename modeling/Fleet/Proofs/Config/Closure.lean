/-
  Fleet/Proofs/Config/Closure.lean
  ================================
  **Giving a record its defaults adds what is missing, and only once.**

  `Record.Completes r r'` says how `r'` comes from `r` by filling in: nothing that is there is
  taken away or changed, except that URLs get their final slash; what is added are the keys with a
  default, those of URLs only if something can be derived from the endpoint of the API; and what
  is added passes the checks of its field.

  A record with its defaults is complete (`Record.withDefaults_withDefaults`).  This is not for
  the lack of missing keys: a URL that could not be derived is still missing in the second pass,
  and that pass derives from another text, the one that has got a slash.  But a text names an
  endpoint whenever it does so with the slash, with the same host
  (`Endpoint.parse_of_withSlash`), so nothing can be derived that could not be derived before.
-/
import Mathlib.Data.List.Sort
import Fleet.Proofs.Config.Checks
import Fleet.Proofs.Url.Siblings
import Fleet.Proofs.Url.Slash

namespace Fleet

open Fleet.Text
open Fleet.Json (Fields)

/-- Fields in ascending order are made up by what they say under each key. -/
theorem Json.Fields.Ascending.ext {o o' : Fields} (h : o.Ascending) (h' : o'.Ascending)
    (heq : ∀ k, o.get? k = o'.get? k) : o = o' := by
  have : Std.Irrefl fun a b : String × Json => a.1 < b.1 := ⟨fun a => String.lt_irrefl a.1⟩
  refine List.Pairwise.eq_of_mem_iff h h' fun p => ?_
  rw [← h.get?_eq_some_iff, ← h'.get?_eq_some_iff, heq]

namespace Config

/-! ### Facts about the tables -/

theorem Field.exists_field_of_default {key : String} {d : Default} (hd : (key, d) ∈ defaults) :
    ∃ f ∈ all, f.name = key ∧ f.kind = d.kind := by
  have htable : ∀ p ∈ defaults, ∃ f ∈ all, f.name = p.1 ∧ f.kind = p.2.kind := by decide
  exact htable _ hd

/-- Only endpoints may fail to be given. -/
theorem Default.isSome_value? {api : Option Url} {key : String} {d : Default}
    (hd : (key, d) ∈ Field.defaults) (hkey : key ∉ Field.urls) : (d.value? api).isSome = true := by
  cases d with
  | derived label path => exact absurd (Field.url_of_derived hd) hkey
  | text s => rfl
  | flag b => rfl

namespace Record

variable {r : Record} {key : String}

/-! ### Endpoints to derive from -/

/-- The endpoint of the API can be read, and other ones can be derived from it. -/
def HasSiblings (r : Record) : Prop :=
  ∃ s api, r.text? "api-url" = some s ∧ Endpoint.parse s = .ok api ∧
    ∃ key label path, (key, Default.derived label path) ∈ Field.defaults ∧
      (Endpoint.derive? api label path).isSome = true

theorem api?_eq_some_iff {api : Url} :
    r.api? = some api ↔ ∃ s, r.text? "api-url" = some s ∧ Endpoint.parse s = .ok api := by
  rw [api?, Option.bind_eq_some_iff]
  refine exists_congr fun s => and_congr_right fun _ => ?_
  cases Endpoint.parse s <;> simp [Except.toOption]

/-- Whether an endpoint is given for a missing URL is the same for all URLs. -/
theorem isSome_value?_iff_hasSiblings {d : Default} (hd : (key, d) ∈ Field.defaults)
    (hkey : key ∈ Field.urls) : (d.value? r.api?).isSome = true ↔ r.HasSiblings := by
  obtain ⟨label, path, rfl⟩ := Field.derived_of_url hkey hd
  rw [Default.value?, Option.isSome_map]
  constructor
  · intro hsome
    obtain ⟨text, htext⟩ := Option.isSome_iff_exists.1 hsome
    obtain ⟨api, hapi, htext⟩ := Option.bind_eq_some_iff.1 htext
    obtain ⟨s, hs, hparse⟩ := api?_eq_some_iff.1 hapi
    exact ⟨s, api, hs, hparse, key, label, path, hd, by rw [htext]; rfl⟩
  · rintro ⟨s, api, hs, hparse, key', label', path', hd', hsome⟩
    rw [api?_of_parse hs hparse, Option.bind_some]
    rwa [Endpoint.isSome_derive?_congr (Endpoint.tidy_of_parse hparse)
      (Endpoint.isPlainRule_of_mem_defaults hd) (Endpoint.isPlainRule_of_mem_defaults hd')]

/-- **The endpoint that is read in a second pass has been read in the first one**, with the same
    scheme, user, host and port. -/
theorem exists_api?_of_withDefaults {api : Url} (h : r.withDefaults.api? = some api) :
    ∃ api', r.api? = some api' ∧ api'.scheme = api.scheme ∧ api'.authority = api.authority := by
  obtain ⟨s, hs, hparse⟩ := api?_eq_some_iff.1 h
  have hvalue := value?_of_text?_withDefaults hs
  cases hget : Fields.get? "api-url" r with
  | none =>
    rw [value?_of_missing hget] at hvalue
    cases hvalue
  | some v =>
    rw [value?, if_pos (by decide), filled?, hget] at hvalue
    cases v <;> simp only [Option.some_or, Option.map_some, withFinalSlash, Option.some.injEq,
      reduceCtorEq] at hvalue
    rename_i raw
    split at hvalue
    · cases hvalue
      exact ⟨api, api?_of_parse (text?_of_get? hget) hparse, rfl, rfl⟩
    · cases hvalue
      obtain ⟨api', hapi, hscheme, hauthority⟩ := Endpoint.parse_of_withSlash hparse
      exact ⟨api', api?_of_parse (text?_of_get? hget) hapi, hscheme, hauthority⟩

/-! ### A second pass -/

@[simp] theorem withFinalSlash_withFinalSlash (v : Json) :
    withFinalSlash (withFinalSlash v) = withFinalSlash v := by
  cases v with
  | str s =>
    cases hs : isBlankText s <;> simp [withFinalSlash, hs, isBlankText_withSlash]
  | _ => rfl

/-- What a record says once it has its defaults has its final slash. -/
theorem withFinalSlash_of_value? {v : Json} (hkey : key ∈ Field.urls) (h : r.value? key = some v) :
    withFinalSlash v = v := by
  rw [value?, if_pos hkey] at h
  obtain ⟨w, -, rfl⟩ := Option.map_eq_some_iff.1 h
  exact withFinalSlash_withFinalSlash w

/-- A key that is missing once the defaults are there has none. -/
theorem default_of_value?_eq_none (h : r.value? key = none) :
    (Field.defaults.lookup key).bind (·.value? r.api?) = none := by
  have hfilled : r.filled? key = none := by
    rw [← Option.not_isSome_iff_eq_none, ← isSome_value?, h]
    exact Bool.false_ne_true
  exact (Option.or_eq_none_iff.1 hfilled).2

/-- **The second pass gives no default that the first one did not.** -/
theorem default_withDefaults_eq_none (h : r.value? key = none) :
    (Field.defaults.lookup key).bind (·.value? r.withDefaults.api?) = none := by
  have hfirst := default_of_value?_eq_none h
  cases hd : Field.defaults.lookup key with
  | none => rfl
  | some d =>
    rw [hd, Option.bind_some] at hfirst
    rw [Option.bind_some]
    cases d with
    | text s => cases hfirst
    | flag b => cases hfirst
    | derived label path =>
      cases hapi : r.withDefaults.api? with
      | none => rfl
      | some api =>
        obtain ⟨api', hapi', hscheme, hauthority⟩ := exists_api?_of_withDefaults hapi
        rw [hapi'] at hfirst
        simpa only [Default.value?, Option.bind_some, Endpoint.derive?_congr hscheme hauthority]
          using hfirst

theorem value?_withDefaults (r : Record) (key : String) :
    r.withDefaults.value? key = r.value? key := by
  cases hv : r.value? key with
  | none =>
    have hfilled : r.withDefaults.filled? key = none := by
      rw [filled?, get?_withDefaults, hv, Option.none_or]
      exact default_withDefaults_eq_none hv
    rw [value?, hfilled]
    exact ite_self none
  | some v =>
    have hfilled : r.withDefaults.filled? key = some v := by
      rw [filled?, get?_withDefaults, hv, Option.some_or]
    rw [value?, hfilled]
    split
    · rename_i hkey
      rw [Option.map_some, withFinalSlash_of_value? hkey hv]
    · rfl

/-- **Giving a record its defaults once more changes nothing.** -/
theorem withDefaults_withDefaults (h : Fields.Ascending r) :
    r.withDefaults.withDefaults = r.withDefaults := by
  have hr := ascending_withDefaults h
  refine (ascending_withDefaults hr).ext hr fun k => ?_
  rw [get?_withDefaults, get?_withDefaults, value?_withDefaults]

/-! ### What is added -/

/-- The record `r'` is `r` with what it lacked. -/
structure Completes (r r' : Record) : Prop where
  /-- What is there stays, and a URL that is not blank gets its final slash. -/
  kept : ∀ key v, Fields.get? key r = some v →
    Fields.get? key r' = some (if key ∈ Field.urls then withFinalSlash v else v)
  /-- The keys that are added have a default, and those of URLs something to derive them from. -/
  added : ∀ key, Fields.get? key r = none →
    ((Fields.get? key r').isSome = true ↔
      (∃ d, (key, d) ∈ Field.defaults) ∧ (key ∈ Field.urls → r.HasSiblings))
  /-- What is added is the default, and passes the checks of its field. -/
  fits : ∀ key v, Fields.get? key r = none → Fields.get? key r' = some v →
    (∃ d, (key, d) ∈ Field.defaults ∧ d.value? r.api? = some v) ∧
      (∃ f ∈ Field.all, f.name = key ∧ f.kind.admits v = true) ∧
      (key ∈ Field.urls → ∃ s, v = .str s ∧ Endpoint.isValid s = true)

/-- An endpoint that stands in for a missing URL is left alone by the slash. -/
theorem withFinalSlash_of_default {d : Default} {v : Json} (hd : (key, d) ∈ Field.defaults)
    (hkey : key ∈ Field.urls) (hv : d.value? r.api? = some v) :
    withFinalSlash v = v ∧ ∃ s, v = .str s ∧ Endpoint.isValid s = true := by
  obtain ⟨label, path, rfl⟩ := Field.derived_of_url hkey hd
  obtain ⟨text, htext, rfl⟩ := Option.map_eq_some_iff.1 hv
  obtain ⟨api, hapi, htext⟩ := Option.bind_eq_some_iff.1 htext
  obtain ⟨hslash, hvalid⟩ := isValid_of_api? hapi hd htext
  refine ⟨?_, text, rfl, hvalid⟩
  rw [withFinalSlash, hslash, ite_self]

/-- Under a missing key comes out the default, as it is. -/
theorem value?_eq_default (h : Fields.get? key r = none) :
    r.value? key = (Field.defaults.lookup key).bind (·.value? r.api?) := by
  rw [value?_of_missing h]
  split
  · rename_i hkey
    cases hv : (Field.defaults.lookup key).bind (·.value? r.api?) with
    | none => rfl
    | some v =>
      obtain ⟨d, hd, hv⟩ := Option.bind_eq_some_iff.1 hv
      rw [Option.map_some, (withFinalSlash_of_default (Field.mem_defaults_of_lookup hd) hkey hv).1]
  · rfl

theorem completes_withDefaults (r : Record) : r.Completes r.withDefaults where
  kept key v h := by
    rw [get?_withDefaults, value?, filled?, h, Option.some_or]
    split <;> rfl
  added key h := by
    rw [get?_withDefaults, value?_eq_default h]
    cases hlookup : Field.defaults.lookup key with
    | none =>
      refine iff_of_false (by simp) ?_
      rintro ⟨⟨d, hd⟩, -⟩
      rw [Field.lookup_of_mem_defaults hd] at hlookup
      cases hlookup
    | some d =>
      have hd := Field.mem_defaults_of_lookup hlookup
      rw [Option.bind_some]
      by_cases hkey : key ∈ Field.urls
      · rw [isSome_value?_iff_hasSiblings hd hkey]
        exact ⟨fun hs => ⟨⟨d, hd⟩, fun _ => hs⟩, fun hs => hs.2 hkey⟩
      · exact iff_of_true (Default.isSome_value? hd hkey) ⟨⟨d, hd⟩, fun h => absurd h hkey⟩
  fits key v h hv := by
    rw [get?_withDefaults, value?_eq_default h] at hv
    obtain ⟨d, hlookup, hv⟩ := Option.bind_eq_some_iff.1 hv
    have hd := Field.mem_defaults_of_lookup hlookup
    obtain ⟨f, hf, hname, hkind⟩ := Field.exists_field_of_default hd
    exact ⟨⟨d, hd, hv⟩, ⟨f, hf, hname, hkind ▸ Default.admits_of_value? hv⟩,
      fun hkey => (withFinalSlash_of_default hd hkey hv).2⟩

/-- **Giving a record its defaults is a closure that keeps what is there.**  Doing it twice is
    doing it once, and what comes out is the record with what it lacked. -/
theorem withDefaults_isClosure (h : Fields.Ascending r) :
    r.withDefaults.withDefaults = r.withDefaults ∧ r.Completes r.withDefaults :=
  ⟨withDefaults_withDefaults h, completes_withDefaults r⟩

/-- A record whose API can be read, with a blank URL, one that is no text and one that is missing. -/
def sketch : Record := [
  ("api-url", .str " https://api.example.com:6443 "),
  ("console-url", .str " "),
  ("metrics-url", .null),
  ("owner", .str "nobody")]

theorem sketch_isClosure : Fields.Ascending sketch ∧
    sketch.withDefaults.text? "logging-url" = some "https://console.example.com:6443/console/" ∧
    sketch.withDefaults.withDefaults = sketch.withDefaults ∧
    sketch.Completes sketch.withDefaults := by
  have hsketch : Fields.Ascending sketch := by
    unfold Fields.Ascending sketch
    decide
  exact ⟨hsketch, by decide +kernel, withDefaults_isClosure hsketch⟩

end Record

end Config

end Fleet
