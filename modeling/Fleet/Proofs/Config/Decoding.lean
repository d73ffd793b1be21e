/-
  Fleet/Proofs/Config/Decoding.lean
  =================================
  **Decoding a record that is in order.**

  A definition is decoded by putting the fields of a record into a draft, one after another.  As
  long as every value is of the kind of its field, no step fails, and the draft holds what the
  fields so far say (`Draft.putAll_ofFields`).  When in the end no field is missing the draft is
  finished, and the definition says under each key what the record says (`ofJson_obj`).
-/
import Mathlib.Data.List.Induction
import Fleet.Config.Definition
import Fleet.Proofs.Json.Canonical
import Fleet.Proofs.Store.Effects

namespace Fleet

open Fleet.Config
open Fleet.Json (Fields)

/-! ### Fields that are in order -/

theorem Config.FieldKind.admits_text {v : Json} (h : FieldKind.text.admits v = true) :
    ∃ s, v = .str s := by
  cases v <;> first | exact ⟨_, rfl⟩ | cases h

theorem Config.FieldKind.admits_flag {v : Json} (h : FieldKind.flag.admits v = true) :
    ∃ b, v = .bool b := by
  cases v <;> first | exact ⟨_, rfl⟩ | cases h

/-- The value is of the kind of its field, and if the field is the type it names one. -/
def Config.Fits (key : String) (v : Json) : Prop :=
  (∀ f ∈ Field.all, f.name = key → f.kind.admits v = true) ∧
    (key = "type" → ∃ k : Kind, v = .str k.name)

theorem Json.Fields.get?_concat (o : Fields) (k key : String) (v : Json) :
    Fields.get? key (o ++ [(k, v)]) = (Fields.get? key o).or (if k = key then some v else none) := by
  induction o with
  | nil => simp [get?, eq_comm]
  | cons p o ih =>
    simp only [List.cons_append, get?]
    split
    · rfl
    · exact ih

namespace Definition

def textAt (o : Fields) (key : String) : Option String := (Fields.get? key o).bind Json.str?

def flagAt (o : Fields) (key : String) : Option Bool :=
  (Fields.get? key o).bind fun
    | .bool b => some b
    | _ => none

namespace Draft

def ofFields (o : Fields) : Draft where
  name := textAt o "name"
  url := textAt o "api-url"
  consoleUrl := textAt o "console-url"
  metricsUrl := textAt o "metrics-url"
  loggingUrl := textAt o "logging-url"
  appDns := textAt o "app-dns"
  token := textAt o "service-account-token"
  tokenUser := textAt o "service-account-username"
  tokenEncrypted := flagAt o "service-account-token-encrypted"
  tokenProvider := textAt o "token-provider-id"
  clientId := textAt o "auth-client-id"
  clientSecret := textAt o "auth-client-secret"
  clientScope := textAt o "auth-client-default-scope"
  kind := (textAt o "type").bind Kind.ofName?
  full := flagAt o "capacity-exhausted"

theorem put_ofFields {o : Fields} {k : String} {v : Json} (hk : Fields.get? k o = none)
    (hfits : Fits k v) : (ofFields o).put k v = .ok (ofFields (o ++ [(k, v)])) := by
  have htext : ∀ required, ⟨k, .text, required⟩ ∈ Field.all → ∃ s, v = .str s := fun _ hf =>
    FieldKind.admits_text (hfits.1 _ hf rfl)
  have hflag : ∀ required, ⟨k, .flag, required⟩ ∈ Field.all → ∃ b, v = .bool b := fun _ hf =>
    FieldKind.admits_flag (hfits.1 _ hf rfl)
  unfold put
  split
  case h_9 | h_15 =>
    obtain ⟨b, rfl⟩ := hflag false (by decide)
    simp [readFlag, ofFields, textAt, flagAt, Fields.get?_concat, hk]
  case h_14 =>
    obtain ⟨kind, rfl⟩ := hfits.2 rfl
    simp [readKind, readName, ofFields, textAt, flagAt, Fields.get?_concat, hk, Json.str?]
  case h_16 =>
    clear htext hflag hfits
    refine congrArg Except.ok ?_
    simp_all [ofFields, textAt, flagAt, Fields.get?_concat]
  all_goals
    obtain ⟨s, rfl⟩ : ∃ s, v = .str s := by
      first | exact htext true (by decide) | exact htext false (by decide)
    simp [readText, ofFields, textAt, flagAt, Fields.get?_concat, hk, Json.str?]

/-- **Fields that are in order are put in without a fault.** -/
theorem putAll_ofFields {o : Fields} (ho : o.Ascending) (hfits : ∀ p ∈ o, Fits p.1 p.2) :
    putAll {} o = .ok (ofFields o) := by
  induction o using List.reverseRecOn with
  | nil => rfl
  | append_singleton o p ih =>
    obtain ⟨ho, -, hlast⟩ := List.pairwise_append.1 ho
    have ho : Fields.Ascending o := ho
    have ih := ih ho fun q hq => hfits q (List.mem_append_left _ hq)
    have hnew : Fields.get? p.1 o = none := by
      cases hg : Fields.get? p.1 o with
      | none => rfl
      | some v =>
        have hmem := ho.get?_eq_some_iff.1 hg
        exact absurd (hlast _ hmem p (List.mem_singleton_self p)) (String.lt_irrefl p.1)
    rw [putAll, List.foldlM_append, ← putAll, ih]
    have hput := put_ofFields hnew (hfits p (List.mem_append_right _ (List.mem_singleton_self p)))
    simp only [List.foldlM_cons, List.foldlM_nil, bind, Except.bind, hput]
    rfl

end Draft

def Complete (o : Fields) : Prop := ∀ f ∈ Field.all, ∃ v, Fields.get? f.name o = some v

section Decoding

variable {o : Fields} (ho : o.Ascending) (hfits : ∀ p ∈ o, Fits p.1 p.2) (hcomplete : Complete o)

include ho hfits hcomplete

theorem exists_text (key : String) (required : Bool) (hf : ⟨key, .text, required⟩ ∈ Field.all) :
    ∃ s, Fields.get? key o = some (.str s) := by
  obtain ⟨v, hv⟩ := hcomplete _ hf
  obtain ⟨s, rfl⟩ := FieldKind.admits_text ((hfits _ (ho.get?_eq_some_iff.1 hv)).1 _ hf rfl)
  exact ⟨s, hv⟩

theorem exists_flag (key : String) (required : Bool) (hf : ⟨key, .flag, required⟩ ∈ Field.all) :
    ∃ b, Fields.get? key o = some (.bool b) := by
  obtain ⟨v, hv⟩ := hcomplete _ hf
  obtain ⟨b, rfl⟩ := FieldKind.admits_flag ((hfits _ (ho.get?_eq_some_iff.1 hv)).1 _ hf rfl)
  exact ⟨b, hv⟩

theorem exists_kind : ∃ k : Kind, Fields.get? "type" o = some (.str k.name) := by
  obtain ⟨v, hv⟩ := hcomplete ⟨"type", .text, false⟩ (by decide)
  obtain ⟨k, rfl⟩ := (hfits _ (ho.get?_eq_some_iff.1 hv)).2 rfl
  exact ⟨k, hv⟩

/-- **A record in which every field is there and in order is decoded**, and the definition says
    under each key what the record says. -/
theorem ofJson_obj :
    ∃ d, Definition.ofJson (.obj o) = .ok d ∧ ∀ p ∈ d.toPairs, Fields.get? p.1 o = some p.2 := by
  have htext := exists_text ho hfits hcomplete
  have hflag := exists_flag ho hfits hcomplete
  obtain ⟨name, hname⟩ := htext "name" true (by decide)
  obtain ⟨url, hurl⟩ := htext "api-url" true (by decide)
  obtain ⟨consoleUrl, hconsole⟩ := htext "console-url" false (by decide)
  obtain ⟨metricsUrl, hmetrics⟩ := htext "metrics-url" false (by decide)
  obtain ⟨loggingUrl, hlogging⟩ := htext "logging-url" false (by decide)
  obtain ⟨appDns, hdns⟩ := htext "app-dns" true (by decide)
  obtain ⟨token, htoken⟩ := htext "service-account-token" true (by decide)
  obtain ⟨user, huser⟩ := htext "service-account-username" true (by decide)
  obtain ⟨encrypted, hencrypted⟩ := hflag "service-account-token-encrypted" false (by decide)
  obtain ⟨provider, hprovider⟩ := htext "token-provider-id" false (by decide)
  obtain ⟨clientId, hid⟩ := htext "auth-client-id" true (by decide)
  obtain ⟨secret, hsecret⟩ := htext "auth-client-secret" true (by decide)
  obtain ⟨scope, hscope⟩ := htext "auth-client-default-scope" true (by decide)
  obtain ⟨kind, hkind⟩ := exists_kind ho hfits hcomplete
  obtain ⟨full, hfull⟩ := hflag "capacity-exhausted" false (by decide)
  clear htext hflag
  refine ⟨{
    name, url, consoleUrl, metricsUrl, loggingUrl, appDns, token, clientId, kind, full,
    tokenUser := user, tokenEncrypted := encrypted, tokenProvider := provider,
    clientSecret := secret, clientScope := scope }, ?_, ?_⟩
  · rw [Definition.ofJson, Draft.putAll_ofFields ho hfits]
    simp [bind, Except.bind, Draft.finish, Draft.need, Draft.ofFields, textAt, flagAt, Json.str?, *]
    rfl
  · simp [toPairs, *]

end Decoding

end Definition

end Fleet
