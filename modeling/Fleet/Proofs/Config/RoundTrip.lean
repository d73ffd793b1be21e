/-
  Fleet/Proofs/Config/RoundTrip.lean
  ==================================
  **What has been loaded can be written and loaded again.**

  A definition is written as a record that has all keys.  If the definition has been loaded, this
  record is as documented: what the checks have accepted in the end, they accept at once
  (`Record.Defines.documented_toRecord`).  Nothing is filled in, for nothing is missing, and a URL
  that has its final slash, or that is blank, stays as it is.  So the record says what the
  definition says (`Record.Defines.defines_toRecord`), and as the keys of a record determine its
  definition (`Record.Defines.eq`) loading it gives this definition.

  A snapshot has its definitions in the one order in which their URLs ascend, so it does not
  matter in which order they have been written (`Snapshot.ofList_eq`).
-/
import Fleet.Proofs.Service.Validators

namespace Fleet

open Fleet.Text Fleet.Config
open Fleet.Json (Fields)

/-! ### Fields from pairs -/

namespace Json.Fields

theorem get?_foldl_insert {ps : List (String × Json)} (h : (ps.map (·.1)).Nodup) (o : Fields)
    {k : String} {v : Json} :
    get? k (ps.foldl (fun o p => o.insert p.1 p.2) o) = some v ↔
      (k, v) ∈ ps ∨ (k ∉ ps.map (·.1) ∧ get? k o = some v) := by
  induction ps generalizing o with
  | nil => simp
  | cons p ps ih =>
    obtain ⟨key, w⟩ := p
    obtain ⟨hkey, hps⟩ := List.nodup_cons.1 h
    have hpair : (key, v) ∉ ps := fun hmem => hkey (List.mem_map.2 ⟨_, hmem, rfl⟩)
    rw [List.foldl_cons, ih hps, get?_insert]
    by_cases hk : k = key
    · subst hk
      simp [hkey, hpair, eq_comm]
    · simp [hk]

/-- The fields from pairs with different keys are these pairs. -/
theorem get?_ofList {ps : List (String × Json)} (h : (ps.map (·.1)).Nodup) {k : String} {v : Json} :
    get? k (ofList ps) = some v ↔ (k, v) ∈ ps := by
  rw [ofList, get?_foldl_insert h]
  simp [get?]

theorem ascending_ofList (ps : List (String × Json)) : (ofList ps).Ascending := by
  refine List.foldlRecOn ps _ List.Pairwise.nil ?_
  intro o ho p _
  exact ho.insert p.1 p.2

end Json.Fields

/-! ### Definitions as records -/

namespace Definition

variable {d : Definition} {key : String} {v : Json}

/-- The record that a definition is written as. -/
def toRecord (d : Definition) : Record := Fields.ofList d.toPairs

theorem nodup_keys (d : Definition) : (d.toPairs.map (·.1)).Nodup := by
  simp [toPairs]

theorem get?_toRecord : Fields.get? key d.toRecord = some v ↔ (key, v) ∈ d.toPairs :=
  Fields.get?_ofList d.nodup_keys

theorem ascending_toRecord (d : Definition) : Fields.Ascending d.toRecord :=
  Fields.ascending_ofList d.toPairs

/-- Every field is written. -/
theorem exists_pair (d : Definition) {f : Field} (hf : f ∈ Field.all) :
    ∃ v, (f.name, v) ∈ d.toPairs := by
  have hkeys : d.toPairs.map (·.1) = Field.all.map (·.name) := rfl
  have hname : f.name ∈ d.toPairs.map (·.1) := hkeys ▸ List.mem_map_of_mem hf
  obtain ⟨p, hp, hname⟩ := List.mem_map.1 hname
  exact ⟨p.2, hname ▸ hp⟩

/-- A definition is determined by what is written of it. -/
theorem toPairs_injective : Function.Injective toPairs := by
  intro d d' h
  obtain ⟨⟨⟩, kind⟩ := d
  obtain ⟨⟨⟩, kind'⟩ := d'
  simp only [toPairs, List.cons.injEq, Prod.mk.injEq, true_and, Json.str.injEq, Json.bool.injEq,
    and_true] at h
  have hkind : kind = kind' := by
    have hname : kind.name = kind'.name := by simp only [h]
    exact Option.some.inj (by rw [← Kind.ofName?_name kind, hname, Kind.ofName?_name])
  simp_all

theorem pair_of_text? {s : String} (h : d.toRecord.text? key = some s) :
    (key, .str s) ∈ d.toPairs :=
  get?_toRecord.1 (Record.get?_of_text? h)

end Definition

namespace Config.Record

variable {r : Record} {d d' : Definition}

/-- A record defines at most one definition. -/
theorem Defines.eq (h : r.Defines d) (h' : r.Defines d') : d = d' := by
  have hvalue : ∀ {d : Definition}, r.Defines d →
      d.toPairs.map (Prod.map id some) =
        (Field.all.map (·.name)).map fun key => (key, r.value? key) := by
    intro d h
    have hkeys : Field.all.map (·.name) = d.toPairs.map (·.1) := rfl
    rw [hkeys, List.map_map]
    refine List.map_congr_left fun p hp => ?_
    exact Prod.ext rfl (h p hp).symm
  have hpairs := (hvalue h).trans (hvalue h').symm
  exact Definition.toPairs_injective
    (List.map_injective_iff.2 (Function.injective_id.prodMap (Option.some_injective _)) hpairs)

theorem Defines.documented_toRecord (h : r.Defines d) (hr : r.Documented) : d.toRecord.Documented where
  kinds f hf v hv := (hr.fits (h _ (Definition.get?_toRecord.1 hv))).1 f hf rfl
  required f hf hreq := by
    obtain ⟨s, hs, hblank⟩ := hr.required f hf hreq
    obtain ⟨s', hs', hblank'⟩ := exists_value?_of_text? hs hblank
    obtain ⟨v, hv⟩ := d.exists_pair hf
    have hvalue := h _ hv
    rw [hs'] at hvalue
    cases hvalue
    exact ⟨s', text?_of_get? (Definition.get?_toRecord.2 hv), hblank'⟩
  type s hs := by
    obtain ⟨k, hk⟩ := (hr.fits (h _ (Definition.pair_of_text? hs))).2 rfl
    cases hk
    exact ⟨k, rfl⟩
  urls key hkey s hs hblank := by
    have hvalue := h _ (Definition.pair_of_text? hs)
    rw [hr.withSlash_of_url hkey hvalue hblank]
    exact hr.isValid_of_url hkey hvalue hblank
  derived key label path hd hmissing := by
    -- a key that has a default is the name of a field, so it is not missing
    have hfield : ∃ f ∈ Field.all, f.name = key := by
      have htable : ∀ p ∈ Field.defaults, ∃ f ∈ Field.all, f.name = p.1 := by decide
      exact htable _ hd
    obtain ⟨f, hf, rfl⟩ := hfield
    obtain ⟨v, hv⟩ := d.exists_pair hf
    rw [Definition.get?_toRecord.2 hv] at hmissing
    cases hmissing

/-- What has been loaded is not changed any more when it is loaded again. -/
theorem Defines.defines_toRecord (h : r.Defines d) (hr : r.Documented) : d.toRecord.Defines d := by
  intro p hp
  have hget := Definition.get?_toRecord.2 hp
  by_cases hkey : p.1 ∈ Field.urls
  · have hvalue := h p hp
    obtain ⟨f, hf, hname⟩ : ∃ f ∈ Field.all, f.name = p.1 ∧ f.kind = .text := by
      have htable : ∀ key ∈ Field.urls, ∃ f ∈ Field.all, f.name = key ∧ f.kind = .text := by decide
      exact htable _ hkey
    obtain ⟨s, hs⟩ := FieldKind.admits_text (hname.2 ▸ (hr.fits hvalue).1 f hf hname.1)
    rw [hs] at hget hvalue ⊢
    rw [value?_of_text? hkey (text?_of_get? hget)]
    split
    · rfl
    · rename_i hblank
      rw [hr.withSlash_of_url hkey hvalue (by simpa using hblank)]
  · exact value?_of_get? hkey hget

end Config.Record

/-! ### Snapshots -/

theorem Snapshot.eq_of_perm {s s' : Snapshot} (h : s.definitions.Perm s'.definitions) : s = s' := by
  obtain ⟨ds, hds⟩ := s
  obtain ⟨ds', hds'⟩ := s'
  have heq : ds = ds' := by
    refine h.eq_of_pairwise ?_ hds hds'
    intro d e _ _ hde hed
    exact absurd (String.lt_trans hde hed) (String.lt_irrefl d.url)
  subst heq
  rfl

theorem Snapshot.nodup_urls (s : Snapshot) : (s.definitions.map (·.url)).Nodup :=
  List.Pairwise.map _ (fun d e (h : d.url < e.url) he => String.lt_irrefl e.url (he ▸ h)) s.ascending

/-- A snapshot is made of its definitions, in whatever order they come. -/
theorem Snapshot.ofList_eq {s : Snapshot} {ds : List Definition} (h : ds.Perm s.definitions) :
    ofList ds = s := by
  have hurls : (ds.map (·.url)).Nodup := (h.map (·.url)).nodup_iff.2 s.nodup_urls
  exact eq_of_perm ((ofList_perm hurls).trans h)

/-! ### Loading again -/

namespace Config

variable {text : String} {s : Snapshot} {ds : List Definition}

/-- A file that loads has a cluster. -/
theorem definitions_ne_nil (h : ofText text = .ok s) : s.definitions ≠ [] := by
  obtain ⟨document, hparse, hload⟩ := Json.of_bind_eq_ok h
  have hcanonical := Json.isCanonical_of_parse (Json.of_mapError_eq_ok hparse)
  obtain ⟨records, hlists, hacceptable⟩ := (ofJson_ok_iff_documented hcanonical).1.1 ⟨s, hload⟩
  obtain ⟨ds, hds, hall, hperm⟩ := ofJson_of_acceptable hlists hacceptable hcanonical
  rw [hds] at hload
  cases hload
  intro hnil
  rw [hnil] at hperm
  rw [hperm.nil_eq.symm] at hall
  exact hacceptable.nonempty (List.forall₂_nil_right_iff.1 hall)

/-- What has been loaded is written as acceptable records. -/
theorem acceptable_toRecord (h : ofText text = .ok s) (hds : ds.Perm s.definitions) :
    Acceptable (ds.map Definition.toRecord) where
  nonempty := by
    intro hnil
    rw [List.map_eq_nil_iff.1 hnil] at hds
    exact definitions_ne_nil h hds.nil_eq.symm
  documented := by
    intro r hr
    obtain ⟨d, hd, rfl⟩ := List.mem_map.1 hr
    obtain ⟨r, -, hdocumented, hdefines⟩ := exists_record h (hds.mem_iff.1 hd)
    exact hdefines.documented_toRecord hdocumented
  distinct := by
    have hendpoints : (ds.map Definition.toRecord).map Record.endpoint? =
        (ds.map (·.url)).map some := by
      rw [List.map_map, List.map_map]
      refine List.map_congr_left fun d hd => ?_
      rw [Function.comp_apply, Function.comp_apply]
      obtain ⟨r, -, hdocumented, hdefines⟩ := exists_record h (hds.mem_iff.1 hd)
      exact (hdefines.defines_toRecord hdocumented).endpoint?
        (hdefines.documented_toRecord hdocumented)
    rw [hendpoints, List.nodup_map_iff (Option.some_injective _)]
    exact (hds.map (·.url)).nodup_iff.2 s.nodup_urls

/-- **What has been loaded can be written, in any order and in either form, and is the same when it
    is loaded again.** -/
theorem ofJson_of_written (h : ofText text = .ok s) (hds : ds.Perm s.definitions) {document : Json}
    (hlists : Lists document (ds.map Definition.toJson)) :
    ofJson document = .ok s ∧
      ∀ written, Json.parse written = .ok document → ofText written = .ok s := by
  have hrecords : Lists document ((ds.map Definition.toRecord).map .obj) := by
    rw [List.map_map]
    exact hlists
  have hsorted : ∀ r ∈ ds.map Definition.toRecord, Fields.Ascending r := by
    intro r hr
    obtain ⟨d, -, rfl⟩ := List.mem_map.1 hr
    exact d.ascending_toRecord
  obtain ⟨ds', hload, hall⟩ := ofJson_of_records hrecords (acceptable_toRecord h hds) hsorted
  have hdefines : List.Forall₂ Record.Defines (ds.map Definition.toRecord) ds := by
    rw [List.forall₂_map_left_iff, List.forall₂_same]
    intro d hd
    obtain ⟨r, -, hdocumented, hdefines⟩ := exists_record h (hds.mem_iff.1 hd)
    exact hdefines.defines_toRecord hdocumented
  have hunique : ds' = ds := List.right_unique_forall₂' (fun _ _ _ hd hd' => hd.eq hd') hall hdefines
  have hload : ofJson document = .ok s := by
    rw [hload, hunique, Snapshot.ofList_eq hds]
  refine ⟨hload, ?_⟩
  intro written hparse
  rw [ofText_of_parse hparse, hload]

/-! ### A file that leaves URLs blank -/

/-- The definition in the file, with its blank URLs. -/
def blankDefinition : Definition where
  name := "a"
  url := "http://[::1]/"
  consoleUrl := ""
  metricsUrl := ""
  loggingUrl := ""
  appDns := "a"
  full := false
  token := "a"
  tokenUser := "a"
  tokenEncrypted := true
  clientId := "a"
  clientSecret := "a"
  clientScope := "a"
  tokenProvider := ""
  kind := .oso

theorem defines_blankDefinition : Registry.blankRecord.Defines blankDefinition := by
  simp only [Record.Defines, Definition.toPairs, List.forall_mem_cons]
  exact ⟨rfl, rfl, rfl, rfl, rfl, rfl, rfl, rfl, rfl, rfl, rfl, rfl, rfl, rfl, rfl,
    List.forall_mem_nil _⟩

theorem definitions_blankSnapshot : Registry.blankSnapshot.definitions = [blankDefinition] := by
  rcases ofText_of_record Registry.parse_blankFile with ⟨-, s, d, hload, hdefinitions, hd⟩ |
    ⟨-, e, hload⟩
  · rw [Registry.ofText_blankFile] at hload
    cases hload
    rw [hdefinitions, hd.eq defines_blankDefinition]
  · rw [Registry.ofText_blankFile] at hload
    cases hload

def blankWritten : String :=
  "\x7b\"clusters\":[\x7b\"name\":\"a\",\"api-url\":\"http://[::1]/\",\"console-url\":\"\"," ++
  "\"metrics-url\":\"\",\"logging-url\":\"\",\"app-dns\":\"a\"," ++
  "\"service-account-token\":\"a\",\"service-account-username\":\"a\"," ++
  "\"service-account-token-encrypted\":true,\"token-provider-id\":\"\"," ++
  "\"auth-client-id\":\"a\",\"auth-client-secret\":\"a\"," ++
  "\"auth-client-default-scope\":\"a\",\"type\":\"OSO\",\"capacity-exhausted\":false\x7d]\x7d"

def blankDocument : Json := .obj [("clusters", .arr [blankDefinition.toJson])]

theorem parse_blankWritten : Json.parse blankWritten = .ok blankDocument := by cbv

theorem ofText_blankWritten :
    ofText Registry.blankFile = .ok Registry.blankSnapshot ∧
      [blankDefinition].Perm Registry.blankSnapshot.definitions ∧
      Lists blankDocument ([blankDefinition].map Definition.toJson) ∧
      ofJson blankDocument = .ok Registry.blankSnapshot ∧
      ofText blankWritten = .ok Registry.blankSnapshot :=
  have hperm : [blankDefinition].Perm Registry.blankSnapshot.definitions :=
    .of_eq definitions_blankSnapshot.symm
  have hlists : Lists blankDocument ([blankDefinition].map Definition.toJson) := .inr ⟨_, rfl, rfl⟩
  have hloads := ofJson_of_written Registry.ofText_blankFile hperm hlists
  ⟨Registry.ofText_blankFile, hperm, hlists, hloads.1, hloads.2 blankWritten parse_blankWritten⟩

end Config

end Fleet
