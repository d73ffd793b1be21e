/-
  Fleet/Proofs/Config/Defaults.lean
  =================================
  **What a record says under each key once it has its defaults.**

  `Record.withDefaults` fills in the defaults and then puts the slashes, in passes over the
  record that each touch one key.  `Record.value?` says in one go what comes out under a key: the
  value that is there, or else the default, and with a final slash if the key is one of a URL.
  That the two agree (`get?_withDefaults`) is a statement about passes over different keys, each
  of which leaves the others alone.
-/
import Fleet.Config.Record
import Fleet.Proofs.Json.Canonical
import Fleet.Proofs.Url.Derived

namespace Fleet.Config

open Fleet.Text
open Fleet.Json (Fields)

namespace Record

variable {r : Record} {key : String}

/-! ### Values -/

def filled? (r : Record) (key : String) : Option Json :=
  (Fields.get? key r).or ((Field.defaults.lookup key).bind (·.value? r.api?))

/-- A URL that is not blank with a final slash; anything else as it is. -/
def withFinalSlash : Json → Json
  | .str s => if isBlankText s then .str s else .str (withSlash s)
  | v => v

/-- What the record says under a key, its defaults included. -/
def value? (r : Record) (key : String) : Option Json :=
  if key ∈ Field.urls then (r.filled? key).map withFinalSlash else r.filled? key

/-! ### Passes over one key -/

theorem get?_fill (api : Option Url) (r : Record) (key k : String) (d : Default) :
    Fields.get? k (fill api r key d) =
      if k = key then (Fields.get? k r).or (d.value? api) else Fields.get? k r := by
  unfold fill Fields.has
  by_cases hk : k = key
  · subst hk
    cases hg : Fields.get? k r with
    | some v => simp [hg]
    | none => cases d.value? api <;> simp [hg]
  · cases hg : Fields.get? key r with
    | some v => simp [hk]
    | none => cases d.value? api <;> simp [hk]

theorem get?_slash (r : Record) (key k : String) :
    Fields.get? k (slash r key) =
      if k = key then (Fields.get? k r).map withFinalSlash else Fields.get? k r := by
  unfold slash
  by_cases hk : k = key
  · subst hk
    cases hg : Fields.get? k r with
    | none => simp [hg]
    | some v =>
      cases v with
      | str s =>
        by_cases hb : isBlankText s = true
        · simp [hg, hb, withFinalSlash]
        · simp [hb, withFinalSlash]
      | _ => simp [hg, withFinalSlash]
  · simp only [if_neg hk]
    split
    · split
      · rfl
      · simp [hk]
    · rfl

/-! ### All passes -/

theorem get?_foldl_fill (api : Option Url) {ds : List (String × Default)}
    (hds : (ds.map (·.1)).Nodup) (r : Record) (k : String) :
    Fields.get? k (ds.foldl (fun r' (key, d) => fill api r' key d) r) =
      (Fields.get? k r).or ((ds.lookup k).bind (·.value? api)) := by
  induction ds generalizing r with
  | nil => simp
  | cons p ds ih =>
    obtain ⟨key, d⟩ := p
    obtain ⟨hkey, hds⟩ := List.nodup_cons.1 hds
    rw [List.foldl_cons, ih hds, get?_fill]
    by_cases hk : k = key
    · subst hk
      have hnone : ds.lookup k = none := List.lookup_eq_none_iff.2 fun p hp => by
        simpa using fun e : k = p.1 => hkey (List.mem_map.2 ⟨p, hp, e.symm⟩)
      simp [hnone]
    · have hne : (k == key) = false := by simpa using hk
      simp [hk, List.lookup_cons, hne]

theorem get?_foldl_slash {keys : List String} (hkeys : keys.Nodup) (r : Record) (k : String) :
    Fields.get? k (keys.foldl slash r) =
      if k ∈ keys then (Fields.get? k r).map withFinalSlash else Fields.get? k r := by
  induction keys generalizing r with
  | nil => simp
  | cons key keys ih =>
    obtain ⟨hkey, hkeys⟩ := List.nodup_cons.1 hkeys
    rw [List.foldl_cons, ih hkeys, get?_slash]
    by_cases hk : k = key
    · subst hk
      simp [hkey]
    · simp [hk]

/-- **A record with its defaults says under each key what it should.** -/
theorem get?_withDefaults (r : Record) (k : String) :
    Fields.get? k r.withDefaults = r.value? k := by
  rw [withDefaults, get?_foldl_slash (by decide), get?_foldl_fill _ (by decide)]
  rfl

theorem ascending_withDefaults (h : r.Ascending) : r.withDefaults.Ascending := by
  have hfill : ∀ (api : Option Url) (r : Record) key d, Fields.Ascending r →
      Fields.Ascending (fill api r key d) := by
    intro api r key d hr
    unfold fill
    split
    · exact hr
    · split
      · exact hr.insert _ _
      · exact hr
  have hslash : ∀ (r : Record) key, Fields.Ascending r → Fields.Ascending (slash r key) := by
    intro r key hr
    unfold slash
    split
    · split
      · exact hr
      · exact hr.insert _ _
    · exact hr
  unfold withDefaults
  refine List.foldlRecOn Field.urls slash ?_ fun r hr key _ => hslash r key hr
  exact List.foldlRecOn Field.defaults _ h fun r' hr p _ => hfill _ r' p.1 p.2 hr

end Record

end Fleet.Config
