/-
  Fleet/Proofs/Config/Secrecy.lean
  ================================
  **Secrets do not get into diagnostics.**

  A record has two secrets, the token of its service account and the client secret.  The only thing
  that is asked of them is that they are texts and not blank.  So when other such texts take their
  places, everything else that is said of a record stays the same: the values under all other
  keys, defaults and derived endpoints included (`OtherSecret.withDefaults`), every issue with its
  index, name, key and cause (`OtherSecret.issues_eq`), and whose endpoint was seen before.

  A document is therefore refused for the same faults, in the same words, whatever its secrets
  are, and if it is loaded its definitions differ in nothing but them (`ofJson_indistinct`).
-/
import Fleet.Proofs.Config.RoundTrip
import Fleet.Proofs.Config.Variants

namespace Fleet

open Fleet.Text Fleet.Config
open Fleet.Json (Fields)

/-! ### Records with other secrets -/

namespace Config

/-- The keys of the secrets. -/
def Field.secrets : List String := ["service-account-token", "auth-client-secret"]

/-- The same value, or, under the key of a secret, another text that is not blank either. -/
inductive OtherSecret (key : String) : Json → Json → Prop where
  | same (v : Json) : OtherSecret key v v
  | text {s s' : String} (hkey : key ∈ Field.secrets) (hs : isBlankText s = false)
      (hs' : isBlankText s' = false) : OtherSecret key (.str s) (.str s')

theorem OtherSecret.eq {key : String} {v v' : Json} (h : OtherSecret key v v')
    (hkey : key ∉ Field.secrets) : v = v' := by
  cases h with
  | same => rfl
  | text hsecret => exact absurd hsecret hkey

/-- Secrets are texts that have to be given. -/
theorem Field.secret_of_mem {key : String} (h : key ∈ secrets) :
    key ∉ urls ∧ defaults.lookup key = none ∧ ∀ f ∈ all, f.name = key → f.kind = .text := by
  have htable : ∀ key ∈ secrets, key ∉ urls ∧ defaults.lookup key = none ∧
      ∀ f ∈ all, f.name = key → f.kind = .text := by decide
  exact htable key h

namespace OtherSecret

variable {r r' : Record} {key : String}

section Record

variable (h : r.Variant OtherSecret r')

include h

theorem get?_eq (hkey : key ∉ Field.secrets) : Fields.get? key r' = Fields.get? key r := by
  rcases h.get?_cases key with ⟨hnone, hnone'⟩ | ⟨v, v', hv, hv', hrel⟩
  · rw [hnone, hnone']
  · rw [hv, hv', hrel.eq hkey]

theorem text?_eq (hkey : key ∉ Field.secrets) : r'.text? key = r.text? key := by
  rw [Record.text?, get?_eq h hkey]
  rfl

theorem has_eq : Fields.has key r' = Fields.has key r := by
  rcases h.get?_cases key with ⟨hnone, hnone'⟩ | ⟨v, v', hv, hv', -⟩
  · rw [Fields.has, Fields.has, hnone, hnone']
  · rw [Fields.has, Fields.has, hv, hv']
    rfl

/-- Issues with both records tell the same name. -/
theorem issue_eq (index : Nat) (key : String) (cause : Issue.Cause) :
    r'.issue index key cause = r.issue index key cause := by
  rw [Record.issue, Record.name?, text?_eq h (by decide)]
  rfl

/-- **The defaults do not tell the secrets apart.** -/
theorem withDefaults : r.withDefaults.Variant OtherSecret r'.withDefaults := by
  have hapi : r'.api? = r.api? := by
    rw [Record.api?, text?_eq h (by decide)]
    rfl
  intro key
  rw [Record.get?_withDefaults, Record.get?_withDefaults]
  by_cases hkey : key ∈ Field.secrets
  · obtain ⟨hurl, hdefault, -⟩ := Field.secret_of_mem hkey
    have hvalue : ∀ r : Record, r.value? key = Fields.get? key r := by
      intro r
      rw [Record.value?, if_neg hurl, Record.filled?, hdefault]
      simp
    rw [hvalue, hvalue]
    exact h key
  · have hsame : r'.value? key = r.value? key := by
      simp only [Record.value?, Record.filled?, get?_eq h hkey, hapi]
    rw [hsame]
    cases r.value? key with
    | none => exact .none
    | some v => exact .some (.same v)

/-! ### Checks -/

theorem kindIssues_eq (index : Nat) : r'.kindIssues index = r.kindIssues index := by
  refine List.filterMap_congr fun f hf => ?_
  rcases h.get?_cases f.name with ⟨hnone, hnone'⟩ | ⟨v, v', hv, hv', hrel⟩
  · rw [hnone, hnone']
  · rw [hv, hv']
    cases hrel with
    | same => simp only [issue_eq h]
    | text hkey =>
      obtain ⟨-, -, hkind⟩ := Field.secret_of_mem hkey
      simp [hkind f hf rfl, FieldKind.admits]

theorem requiredIssues_eq (index : Nat) : r'.requiredIssues index = r.requiredIssues index := by
  refine List.filterMap_congr fun f hf => ?_
  rcases h.get?_cases f.name with ⟨hnone, hnone'⟩ | ⟨v, v', hv, hv', hrel⟩
  · simp only [hnone, hnone', issue_eq h]
  · rw [hv, hv']
    cases hrel with
    | same => cases v <;> simp only [issue_eq h]
    | text _ hs hs' => simp [hs, hs']

theorem valueIssues_eq (index : Nat) : r'.valueIssues index = r.valueIssues index := by
  have htype : r'.typeIssues index = r.typeIssues index := by
    have hsame : r'.text? "type" = r.text? "type" := text?_eq h (by decide)
    simp only [Record.typeIssues, hsame, issue_eq h]
  have hurls : r'.urlIssues index = r.urlIssues index := by
    refine List.filterMap_congr fun key hkey => ?_
    have hno : ∀ key ∈ Field.urls, key ∉ Field.secrets := by decide
    simp only [text?_eq h (hno key hkey), issue_eq h]
  have hderived : r'.derivedIssues index = r.derivedIssues index := by
    have hsame : r'.text? "api-url" = r.text? "api-url" := text?_eq h (by decide)
    simp only [Record.derivedIssues, hsame, has_eq h, issue_eq h]
  rw [Record.valueIssues, requiredIssues_eq h, htype, hurls, hderived]
  rfl

/-- **Records that differ in secrets have the same issues.** -/
theorem issues_eq (index : Nat) : r'.issues index = r.issues index := by
  rw [Record.issues, kindIssues_eq h, valueIssues_eq (withDefaults h)]
  rfl

end Record

/-! ### Lists of records -/

theorem itemIssues_eq {j j' : Json} (h : ItemVariant OtherSecret j j') (index : Nat) :
    itemIssues index j' = itemIssues index j := by
  cases h with
  | same => rfl
  | record h => exact issues_eq h index

/-- The records that are compared with each other in the end, one beside the other. -/
theorem forall₂_prepared {items items' : List Json}
    (h : List.Forall₂ (ItemVariant OtherSecret) items items') (index : Nat) :
    List.Forall₂ (fun p p' : Nat × Record => p'.1 = p.1 ∧ p.2.Variant OtherSecret p'.2)
      (prepared (items.zipIdx index)) (prepared (items'.zipIdx index)) := by
  induction h generalizing index with
  | nil => exact .nil
  | @cons j _ _ _ hitem _ ih =>
    rw [List.zipIdx_cons, List.zipIdx_cons]
    cases hitem with
    | record hr =>
      rw [prepared_obj, prepared_obj]
      refine .cons ⟨rfl, ?_⟩ (ih (index + 1))
      dsimp only
      exact withDefaults hr
    | same =>
      cases j with
      | obj r =>
        rw [prepared_obj, prepared_obj]
        refine .cons ⟨rfl, ?_⟩ (ih (index + 1))
        dsimp only
        exact .refl (fun _ => .same) _
      | _ => exact ih (index + 1)

theorem duplicateIssues_eq {ps ps' : List (Nat × Record)}
    (h : List.Forall₂ (fun p p' : Nat × Record => p'.1 = p.1 ∧ p.2.Variant OtherSecret p'.2) ps ps')
    (seen : List (String × Nat)) : duplicateIssues seen ps' = duplicateIssues seen ps := by
  induction h generalizing seen with
  | nil => rfl
  | @cons p p' _ _ hp _ ih =>
    obtain ⟨i, r⟩ := p
    obtain ⟨i', r'⟩ := p'
    obtain ⟨rfl, hr⟩ := hp
    have hendpoint : endpointOf r' = endpointOf r := by
      rw [endpointOf, text?_eq hr (by decide)]
      rfl
    simp only [duplicateIssues, hendpoint, issue_eq hr, ih]

/-- **Lists of records that differ in secrets have the same issues.** -/
theorem issuesOf_eq {items items' : List Json}
    (h : List.Forall₂ (ItemVariant OtherSecret) items items') : issuesOf items' = issuesOf items := by
  have hempty : items'.isEmpty = items.isEmpty := by cases h <;> rfl
  have hitems : ∀ index, (items'.zipIdx index).flatMap (fun p => itemIssues p.2 p.1) =
      (items.zipIdx index).flatMap fun p => itemIssues p.2 p.1 := by
    clear hempty
    induction h with
    | nil => exact fun _ => rfl
    | cons hitem _ ih =>
      intro index
      simp only [List.zipIdx_cons, List.flatMap_cons, itemIssues_eq hitem, ih (index + 1)]
  have hduplicates := duplicateIssues_eq (forall₂_prepared h 0) []
  rw [issuesOf, issuesOf, hempty, hduplicates]
  exact congrArg (fun issues => _ ++ issues ++ _) (hitems 0)

theorem transfers : Transfers OtherSecret where
  refl _ v := .same v
  documented {r r'} h hr := by
    have hissues := issues_eq h 0
    rw [hr.issues_eq_nil] at hissues
    exact Record.documented_of_issues_eq_nil hissues
  endpoint? {r r'} h _ := by rw [Record.endpoint?, text?_eq h (by decide), Record.endpoint?]

end OtherSecret

end Config

/-! ### Definitions and snapshots -/

namespace Definition

variable {d d' : Definition}

/-- The definition with other secrets. -/
def withSecrets (d : Definition) (token clientSecret : String) : Definition :=
  { d with token, clientSecret }

/-- Definitions that differ in their secrets only, which diagnostics do not show: neither of the
    definitions nor of the clusters that they give. -/
structure Indistinct (d d' : Definition) : Prop where
  secrets : ∃ token clientSecret, d' = d.withSecrets token clientSecret
  debug : d'.debug = d.debug
  debug_withId : ∀ id tokenProvider,
    (d'.withId id tokenProvider).debug = (d.withId id tokenProvider).debug

theorem indistinct_withSecrets (d : Definition) (token clientSecret : String) :
    d.Indistinct (d.withSecrets token clientSecret) where
  secrets := ⟨token, clientSecret, rfl⟩
  debug := rfl
  debug_withId _ _ := rfl

/-- Only what stands under the keys of the secrets is written anew. -/
theorem toPairs_withSecrets (d : Definition) (token clientSecret : String) :
    (d.withSecrets token clientSecret).toPairs = d.toPairs.map fun p =>
      if p.1 = "service-account-token" then ("service-account-token", .str token)
      else if p.1 = "auth-client-secret" then ("auth-client-secret", .str clientSecret)
      else p := by
  simp [toPairs, withSecrets]

/-- Records that differ in secrets give definitions that differ in secrets. -/
theorem indistinct_of_variants {r r' : Record} (h : DefinedByVariants OtherSecret r r' d d') :
    d.Indistinct d' := by
  have hdefines : r'.Defines (d.withSecrets d'.token d'.clientSecret) := by
    intro p hp
    rw [toPairs_withSecrets] at hp
    obtain ⟨q, hq, rfl⟩ := List.mem_map.1 hp
    split_ifs with htoken hsecret
    · exact h.defines' _ (by simp [toPairs])
    · exact h.defines' _ (by simp [toPairs])
    · have hkey : q.1 ∉ Field.secrets := by simp [Field.secrets, htoken, hsecret]
      rw [← Record.get?_withDefaults, OtherSecret.get?_eq (OtherSecret.withDefaults h.variant) hkey,
        Record.get?_withDefaults]
      exact h.defines q hq
  rw [h.defines'.eq hdefines]
  exact indistinct_withSecrets d d'.token d'.clientSecret

end Definition

namespace Snapshot

/-- Snapshots of definitions that are in relation, pair by pair, are so too. -/
theorem forall₂_place {P : Definition → Definition → Prop} (hP : ∀ d d', P d d' → d'.url = d.url)
    {d d' : Definition} (hd : P d d') {ds ds' : List Definition} (h : List.Forall₂ P ds ds') :
    List.Forall₂ P (place d ds) (place d' ds') := by
  induction h with
  | nil => exact .cons hd .nil
  | cons he hds ih =>
    rw [place, place, hP d d' hd, hP _ _ he]
    split
    · exact .cons hd hds
    · split
      · exact .cons hd (.cons he hds)
      · exact .cons he ih

theorem forall₂_ofList {P : Definition → Definition → Prop} (hP : ∀ d d', P d d' → d'.url = d.url)
    {ds ds' : List Definition} (h : List.Forall₂ P ds ds') :
    List.Forall₂ P (ofList ds).definitions (ofList ds').definitions := by
  have hinsert : ∀ {s s' : Snapshot}, List.Forall₂ P s.definitions s'.definitions →
      List.Forall₂ P (ds.foldl insert s).definitions (ds'.foldl insert s').definitions := by
    induction h with
    | nil => exact id
    | cons hd _ ih => exact fun hs => ih (forall₂_place hP hd hs)
  exact hinsert .nil

end Snapshot

/-! ### Loading -/

namespace Config

/-- What loading has given cannot be told apart by anything but the secrets themselves: the same
    fault, or snapshots that diagnostics show alike. -/
inductive Indistinct : Except Fault Snapshot → Except Fault Snapshot → Prop where
  | refused (why : Fault) : Indistinct (.error why) (.error why)
  | loaded {s s' : Snapshot} (definitions : List.Forall₂ Definition.Indistinct s.definitions s'.definitions)
      (debug : s'.debug = s.debug) : Indistinct (.ok s) (.ok s')

theorem debug_of_forall₂ {s s' : Snapshot}
    (h : List.Forall₂ Definition.Indistinct s.definitions s'.definitions) : s'.debug = s.debug := by
  have hshown : s'.definitions.map (fun d => (Quoted.encode d.url, d.debug)) =
      s.definitions.map fun d => (Quoted.encode d.url, d.debug) := by
    generalize s.definitions = ds, s'.definitions = ds' at h
    induction h with
    | nil => rfl
    | cons hd _ ih =>
      obtain ⟨token, clientSecret, rfl⟩ := hd.secrets
      rw [List.map_cons, List.map_cons, ih, hd.debug]
      rfl
  unfold Snapshot.debug
  rw [hshown]

/-- A document that is refused is refused for the same faults with other secrets. -/
theorem ofJson_eq_of_not_documented {document document' : Json}
    (h : DocumentVariant OtherSecret document document') (hdocument : ¬ Documented document) :
    ofJson document' = ofJson document := by
  rcases h.exists_items with ⟨cause, hrecords, hrecords'⟩ | ⟨items, items', hitems, hitems', hvariants⟩
  · simp only [ofJson, definitionsOf, hrecords, hrecords']
  · have hissues := OtherSecret.issuesOf_eq hvariants
    cases hnil : issuesOf items with
    | nil =>
      obtain ⟨records, rfl, hrecords⟩ := issuesOf_eq_nil_iff.1 hnil
      exact absurd ⟨records, recordsOf_eq_ok_iff.1 hitems, hrecords⟩ hdocument
    | cons issue issues =>
      rw [hnil] at hissues
      simp only [ofJson, definitionsOf, hitems, hitems', hnil, hissues]

/-- **Documents that differ in their secrets are loaded alike.** -/
theorem ofJson_indistinct {document document' : Json} (hdocument : document.IsCanonical)
    (hdocument' : document'.IsCanonical) (h : DocumentVariant OtherSecret document document') :
    Indistinct (ofJson document) (ofJson document') := by
  by_cases hdocumented : Documented document
  · obtain ⟨ds, ds', hds, hds', hall⟩ :=
      OtherSecret.transfers.exists_definitions h hdocument hdocument' hdocumented
    have hall : List.Forall₂ Definition.Indistinct ds ds' :=
      hall.imp fun d d' ⟨r, r', hr⟩ => Definition.indistinct_of_variants hr
    have hsnapshots := Snapshot.forall₂_ofList (fun d d' hd => by
      obtain ⟨token, clientSecret, rfl⟩ := hd.secrets
      rfl) hall
    rw [hds, hds']
    exact .loaded hsnapshots (debug_of_forall₂ hsnapshots)
  · rw [ofJson_eq_of_not_documented h hdocumented]
    obtain ⟨issues, -, hissues⟩ := ofJson_of_not_documented hdocumented
    rw [hissues]
    exact .refused _

/-- The record at the loopback address with another token. -/
def Record.loopbackElse : Record :=
  Fields.insert "service-account-token" (.str "another token") Record.loopback

theorem loopback_indistinct :
    (Json.arr [.obj Record.loopback]).IsCanonical ∧ (Json.arr [.obj Record.loopbackElse]).IsCanonical ∧
      DocumentVariant OtherSecret (.arr [.obj Record.loopback]) (.arr [.obj Record.loopbackElse]) ∧
      (ofJson (.arr [.obj Record.loopbackElse])).isOk = true ∧
      Indistinct (ofJson (.arr [.obj Record.loopback])) (ofJson (.arr [.obj Record.loopbackElse])) := by
  have hlist : (Json.arr [.obj Record.loopback]).IsCanonical :=
    Json.isCanonical_of_parse parse_loopbackText
  have hrecord : Fields.IsCanonical Record.loopback := by
    cases hlist with
    | arr hitems =>
      cases hitems _ (List.mem_singleton_self _) with
      | obj hsorted hvalues => exact ⟨hsorted, hvalues⟩
  have hlist' : (Json.arr [.obj Record.loopbackElse]).IsCanonical := by
    have helse := hrecord.insert "service-account-token" (.str "another token")
    exact .arr (List.forall_mem_singleton.2 (.obj helse.1 helse.2))
  have hvariant : Record.loopback.Variant OtherSecret Record.loopbackElse := by
    intro key
    rw [Record.loopbackElse, Fields.get?_insert]
    split_ifs with hkey
    · rw [hkey]
      exact .some (.text (by decide) (by decide) (by decide))
    · exact Record.Variant.refl (fun _ => .same) Record.loopback key
  have hdocument := DocumentVariant.list (.cons (.record hvariant) .nil)
  exact ⟨hlist, hlist', hdocument, by decide +kernel, ofJson_indistinct hlist hlist' hdocument⟩

end Config

end Fleet
