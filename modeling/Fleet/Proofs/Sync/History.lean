/-
  Fleet/Proofs/Sync/History.lean
  ==============================
  **What a row has become after many syncs.**

  Snapshots are synced one after another, and all syncs succeed.  What has become of the row at a
  URL can then be told from what the snapshots say about this URL, one after another (`said`):

  * the row has the identifier and the time of creation that it got when it was created;
  * it carries the last definition;
  * its token provider is the last one that was given, or else the one that it had before, or else
    its identifier (`lastGiven`).

  `Traced` is this invariant, and one more sync keeps it (`Traced.synced`).  Syncing a snapshot a
  second time changes nothing but the times at which the rows were written (`again_of_sync`).
-/
import Fleet.Proofs.Sync.AllOrNothing

namespace Fleet.Sync

open Fleet.Store

/-! ### Token providers -/

theorem firstGiven_self (a : String) : firstGiven a a = a := by
  unfold firstGiven
  split <;> rfl

theorem firstGiven_empty (b : String) : firstGiven "" b = b := rfl

theorem firstGiven_of_ne {a : String} (h : a ≠ "") (b : String) : firstGiven a b = a := by
  unfold firstGiven
  rw [if_neg]
  simpa using h

theorem firstGiven_firstGiven (a b : String) : firstGiven (firstGiven a b) b = firstGiven a b := by
  by_cases ha : a = ""
  · rw [ha]
    exact firstGiven_self b
  · rw [firstGiven_of_ne ha, firstGiven_of_ne ha]

/-- The last token provider that is given in some definitions, or else this one. -/
def lastGiven (ds : List Definition) (otherwise : String) : String :=
  ((ds.map (·.tokenProvider)).filter (· ≠ "")).getLast?.getD otherwise

theorem lastGiven_concat (ds : List Definition) (d : Definition) (otherwise : String) :
    lastGiven (ds ++ [d]) otherwise = firstGiven d.tokenProvider (lastGiven ds otherwise) := by
  by_cases hd : d.tokenProvider = ""
  · simp [lastGiven, hd, firstGiven]
  · simp [lastGiven, hd, firstGiven]

theorem firstGiven_lastGiven (ds : List Definition) (a id : String) :
    firstGiven (lastGiven ds (firstGiven a id)) id = lastGiven ds (firstGiven a id) := by
  unfold lastGiven
  cases hlast : ((ds.map (·.tokenProvider)).filter (· ≠ "")).getLast? with
  | none => exact firstGiven_firstGiven a id
  | some p =>
    have hp := (List.mem_filter.1 (List.mem_of_getLast? hlast)).2
    exact firstGiven_of_ne (of_decide_eq_true hp) id

/-! ### What snapshots say about a URL -/

def said (url : String) (ss : List Snapshot) : List Definition :=
  ss.flatMap fun s => s.definitions.filter (·.url = url)

theorem said_append (url : String) (ss ss' : List Snapshot) :
    said url (ss ++ ss') = said url ss ++ said url ss' :=
  List.flatMap_append

theorem said_singleton (url : String) (s : Snapshot) :
    said url [s] = s.definitions.filter (·.url = url) := by
  simp [said]

/-- A snapshot says at most one thing about a URL. -/
theorem said_of_mem {s : Snapshot} {d : Definition} (hd : d ∈ s.definitions) :
    said d.url [s] = [d] := by
  rw [said_singleton]
  have hnodup : (s.definitions.filter (·.url = d.url)).Nodup := by
    apply List.Pairwise.filter
    apply (urls_ne s).imp
    rintro a b hab rfl
    exact hab rfl
  have honly : ∀ e, e ∈ s.definitions.filter (·.url = d.url) ↔ e ∈ [d] := by
    intro e
    rw [List.mem_singleton]
    constructor
    · intro he
      obtain ⟨he, hurl⟩ := List.mem_filter.1 he
      by_contra hne
      have hsymm : Std.Symm fun a b : Definition => a.url ≠ b.url := ⟨fun _ _ h => h.symm⟩
      exact (List.Pairwise.forall (urls_ne s) he hd hne) (of_decide_eq_true hurl)
    · rintro rfl
      exact List.mem_filter.2 ⟨hd, decide_eq_true rfl⟩
  exact List.perm_singleton.1
    ((List.perm_ext_iff_of_nodup hnodup (List.pairwise_singleton _ d)).2 honly)

/-! ### One more sync -/

/-- The token provider of the row, if there is one. -/
def providerOf (rows : List Row) : String := (rows.head?.map (·.tokenProvider)).getD ""

/-- What has become of the rows at a URL about which these definitions have been synced. -/
inductive Traced (url : String) (before : Tables) (ds : List Definition) (after : Tables) : Prop where
  | untouched : ds = [] → after.rowsAt url = before.rowsAt url → Traced url before ds after
  | written {row : Row} {d : Definition} :
      after.rowsAt url = [row] → ds.getLast? = some d → Carries row d →
      (∀ old ∈ before.rowsAt url, row.id = old.id ∧ row.created = old.created) →
      row.tokenProvider = lastGiven ds (firstGiven (providerOf (before.rowsAt url)) row.id) →
      Traced url before ds after

variable {fresh : Uuid → Prop} {url : String} {t m t' : Tables} {ds : List Definition}

theorem Synced.rowsAt_elsewhere {s : List Definition} (h : Synced fresh s m t')
    (hurl : url ∉ s.map (·.url)) : t'.rowsAt url = m.rowsAt url := by
  refine filter_of_away h.elsewhere (P := fun u => decide (u = url)) ?_
  intro u hu
  apply decide_eq_false
  rintro rfl
  exact hurl hu

/-- What is written last goes on with what has been left before. -/
theorem Traced.concat {d : Definition} (h : Traced d.url t ds m) (hd : Written fresh d m t') :
    Traced d.url t (ds ++ [d]) t' := by
  cases hd with
  | @overwritten old row hold hrow hcarries hid hcreated hprovider =>
    cases h with
    | untouched hnone hsame =>
      rw [hnone]
      refine .written hrow rfl hcarries ?_ ?_
      · intro q hq
        rw [← hsame, hold, List.mem_singleton] at hq
        rw [hq]
        exact ⟨hid, hcreated⟩
      · rw [lastGiven_concat, ← hsame, hold, hid]
        exact hprovider
    | @written old' d' hold' hlast hcarries' hkept hprovider' =>
      obtain rfl : old' = old := by simpa [hold'] using hold
      refine .written hrow List.getLast?_concat hcarries ?_ ?_
      · intro q hq
        obtain ⟨hqid, hqcreated⟩ := hkept q hq
        exact ⟨hid.trans hqid, hcreated.trans hqcreated⟩
      · rw [lastGiven_concat, hid, ← firstGiven_lastGiven, ← hprovider']
        exact hprovider
  | @created row id hnone hrow hcarries hfresh hid hfree hprovider =>
    cases h with
    | untouched hds hsame =>
      rw [hsame] at hnone
      rw [hds]
      refine .written hrow rfl hcarries ?_ ?_
      · intro q hq
        rw [hnone] at hq
        cases hq
      · rw [lastGiven_concat, hnone]
        exact hprovider
    | written hrow' =>
      rw [hnone] at hrow'
      cases hrow'

theorem Traced.of_rowsAt (h : Traced url t ds m) (hsame : t'.rowsAt url = m.rowsAt url) :
    Traced url t ds t' := by
  cases h with
  | untouched hds hbefore => exact .untouched hds (hsame.trans hbefore)
  | written hrow hlast hcarries hkept hprovider =>
    exact .written (hsame.trans hrow) hlast hcarries hkept hprovider

/-- **One more sync goes on with what the syncs before it have left.** -/
theorem Traced.synced (h : Traced url t ds m) {s : Snapshot} (hs : Synced fresh s.definitions m t') :
    Traced url t (ds ++ said url [s]) t' := by
  by_cases hurl : url ∈ s.definitions.map (·.url)
  · obtain ⟨d, hd, rfl⟩ := List.mem_map.1 hurl
    rw [said_of_mem hd]
    exact h.concat (hs.written d hd)
  · have hsaid : said url [s] = [] := by
      rw [said_singleton, List.filter_eq_nil_iff]
      intro d hd he
      exact hurl (List.mem_map.2 ⟨d, hd, of_decide_eq_true he⟩)
    rw [hsaid, List.append_nil]
    exact h.of_rowsAt (hs.rowsAt_elsewhere hurl)

/-! ### Many syncs -/

/-- Snapshots that are synced one after another, all with success. -/
inductive Syncs (r : Registry) : List Snapshot → Registry → Prop where
  | nil : Syncs r [] r
  | snoc {m r' : Registry} {ss : List Snapshot} {s : Snapshot} {terms : Terms} {rep : SyncReport} :
      Syncs r ss m → m.sync terms s = (.ok rep, r') → Syncs r (ss ++ [s]) r'

namespace Syncs

variable {r m r' : Registry} {ss ss₁ ss₂ : List Snapshot}

theorem append (h₁ : Syncs r ss₁ m) (h₂ : Syncs m ss₂ r') : Syncs r (ss₁ ++ ss₂) r' := by
  induction h₂ with
  | nil =>
    rw [List.append_nil]
    exact h₁
  | snoc _ hsync ih =>
    rw [← List.append_assoc]
    exact .snoc ih hsync

theorem keyed (h : Syncs r ss r') (hk : r.database.tables.Keyed) : r'.database.tables.Keyed := by
  induction h with
  | nil => exact hk
  | @snoc m r' ss s terms rep _ hsync ih =>
    have hkeyed := Registry.keyed_execute terms (work s) ih
    rw [Registry.sync] at hsync
    rw [hsync] at hkeyed
    exact hkeyed

theorem traced (h : Syncs r ss r') (hk : r.database.tables.Keyed) (url : String) :
    Traced url r.database.tables (said url ss) r'.database.tables := by
  induction h with
  | nil => exact .untouched rfl rfl
  | snoc h hsync ih =>
    rw [said_append]
    exact ih.synced (synced_of_ok (h.keyed hk) (.refl _) hsync).1

end Syncs

/-- The history of the row at a URL through syncs, with a stop on the way. -/
structure History (url : String) (r : Registry) (ss₁ : List Snapshot) (m : Registry)
    (ss₂ : List Snapshot) (r' : Registry) : Prop where
  /-- There is a row at the stop if there was one before or one has been created. -/
  there : r.database.tables.rowsAt url ≠ [] ∨ said url ss₁ ≠ [] →
    ∃ row, m.database.tables.rowsAt url = [row]
  /-- In the end there is a row.  It is the one that there was before and at the stop, and it
      has what was said last. -/
  ending : ∃ row d, r'.database.tables.rowsAt url = [row] ∧
    (∀ old ∈ r.database.tables.rowsAt url ++ m.database.tables.rowsAt url,
      row.id = old.id ∧ row.created = old.created) ∧
    (said url (ss₁ ++ ss₂)).getLast? = some d ∧ Carries row d ∧
    row.tokenProvider = lastGiven (said url (ss₁ ++ ss₂))
      (firstGiven (providerOf (r.database.tables.rowsAt url)) row.id)

theorem Syncs.history {url : String} {r m r' : Registry} {ss₁ ss₂ : List Snapshot}
    (hk : r.database.tables.Keyed) (h₁ : Syncs r ss₁ m) (h₂ : Syncs m ss₂ r')
    (hurl : ∃ s ∈ ss₁ ++ ss₂, ∃ d ∈ s.definitions, d.url = url) : History url r ss₁ m ss₂ r' where
  there := by
    intro hthere
    cases h₁.traced hk url with
    | untouched hnone hsame =>
      rw [hsame]
      rcases hthere with hbefore | hsaid
      · cases hrow : r.database.tables.rowAt? url with
        | none => exact absurd (Tables.rowsAt_eq_nil_iff.2 hrow) hbefore
        | some row => exact ⟨row, hk.rowsAt_of_rowAt? hrow⟩
      · exact absurd hnone hsaid
    | @written row d hrow => exact ⟨row, hrow⟩
  ending := by
    cases (h₁.append h₂).traced hk url with
    | untouched hnone =>
      obtain ⟨s, hs, d, hd, rfl⟩ := hurl
      have hsaid : d ∈ said d.url (ss₁ ++ ss₂) :=
        List.mem_flatMap.2 ⟨s, hs, List.mem_filter.2 ⟨hd, decide_eq_true rfl⟩⟩
      rw [hnone] at hsaid
      cases hsaid
    | @written row d hrow hlast hcarries hkept hprovider =>
      refine ⟨row, d, hrow, ?_, hlast, hcarries, hprovider⟩
      intro old hold
      rcases List.mem_append.1 hold with hold | hold
      · exact hkept old hold
      · cases h₂.traced (h₁.keyed hk) url with
        | untouched hnone hsame =>
          rw [← hsame, hrow, List.mem_singleton] at hold
          rw [hold]
          exact ⟨rfl, rfl⟩
        | written hrow' hlast' hcarries' hkept' hprovider' =>
          rw [hrow] at hrow'
          cases hrow'
          exact hkept' old hold

/-! ### The same snapshot again -/

def untimed (row : Row) : Row := { row with updated := 0 }

/-- What syncing a snapshot comes to that has just been synced. -/
structure Again (terms : Terms) (s : Snapshot) (r : Registry) : Prop where
  same : ∀ rep r', r.sync terms s = (.ok rep, r') →
    rep = ⟨0, s.size⟩ ∧ r'.database.tables.links = r.database.tables.links ∧
      ∀ url, (r'.database.tables.rowsAt url).map untimed = (r.database.tables.rowsAt url).map untimed
  succeeds : r.database.traps = [] → r.database.backend.writable = true →
    (∀ row ∈ r.database.tables.rows, row.IsSound) → ∃ rep r', r.sync terms s = (.ok rep, r')

theorem Written.exists_row {d : Definition} (h : Written fresh d t t') :
    ∃ row a, t'.rowsAt d.url = [row] ∧ Carries row d ∧
      row.tokenProvider = firstGiven d.tokenProvider (firstGiven a row.id) := by
  cases h with
  | @overwritten old row hold hrow hcarries hid hcreated hprovider =>
    rw [← hid] at hprovider
    exact ⟨row, old.tokenProvider, hrow, hcarries, hprovider⟩
  | @created row id hnone hrow hcarries hfresh hid hfree hprovider =>
    exact ⟨row, "", hrow, hcarries, hprovider⟩

/-- A definition that is written again changes nothing but the time. -/
theorem Written.again {d : Definition} {t'' : Tables} {fresh' : Uuid → Prop}
    (h : Written fresh d t t') (h' : Written fresh' d t' t'') :
    (t''.rowsAt d.url).map untimed = (t'.rowsAt d.url).map untimed := by
  obtain ⟨row, a, hrow, hcarries, hprovider⟩ := h.exists_row
  cases h' with
  | @overwritten old new hold hnew hcarries' hid hcreated hprovider' =>
    obtain rfl : row = old := by simpa [hrow] using hold
    have hsame : new.tokenProvider = row.tokenProvider := by
      rw [hprovider', hprovider]
      by_cases hd : d.tokenProvider = ""
      · rw [hd, firstGiven_empty, firstGiven_empty, firstGiven_firstGiven]
      · rw [firstGiven_of_ne hd, firstGiven_of_ne hd]
    have hprofile : new.toProfile = row.toProfile := by
      rw [hcarries'.1, hcarries.1, hsame]
    have hkind : new.kind = row.kind := hcarries'.2.trans hcarries.2.symm
    have hrow' : untimed new = untimed row := by
      obtain ⟨profile, id, kind, created, updated⟩ := row
      obtain ⟨profile', id', kind', created', updated'⟩ := new
      obtain rfl : profile' = profile := hprofile
      obtain rfl : kind' = kind := hkind
      obtain rfl : id' = id := hid
      obtain rfl : created' = created := hcreated
      rfl
    rw [hnew, hrow, List.map_singleton, List.map_singleton, hrow']
  | created hnone =>
    rw [hrow] at hnone
    cases hnone

theorem absent_eq_zero {ds : List Definition} (h : ∀ d ∈ ds, Written fresh d t t') :
    absent t' ds = 0 := by
  apply List.countP_eq_zero.2
  intro d hd
  obtain ⟨row, -, hrow, -⟩ := (h d hd).exists_row
  rw [hrow]
  exact Bool.false_ne_true

/-- **A snapshot that is synced again changes nothing but the time.** -/
theorem again_of_sync {r r' : Registry} {s : Snapshot} {terms : Terms} {rep : SyncReport}
    (hk : r.database.tables.Keyed) (h : r.sync terms s = (.ok rep, r')) (terms' : Terms) :
    Again terms' s r' := by
  obtain ⟨hsynced, -⟩ := synced_of_ok hk (.refl _) h
  have habsent := absent_eq_zero hsynced.written
  constructor
  · intro rep' r'' h'
    obtain ⟨hsynced', hcreated, htotal⟩ := synced_of_ok hsynced.keyed (.refl _) h'
    rw [habsent] at hcreated
    refine ⟨?_, hsynced'.links, ?_⟩
    · cases rep'
      simp_all
    · intro url
      by_cases hurl : url ∈ s.definitions.map (·.url)
      · obtain ⟨d, hd, rfl⟩ := List.mem_map.1 hurl
        exact (hsynced.written d hd).again (hsynced'.written d hd)
      · rw [hsynced'.rowsAt_elsewhere hurl]
  · intro htraps hwritable hsound
    apply sync_succeeds_of_absent hsynced.keyed htraps hwritable
    · intro d hd row hrow hurl
      exact hsound row hrow
    · rw [habsent]
      exact ⟨fun k hk => absurd hk (Nat.not_lt_zero k), fun j k hjk hk => absurd hk (Nat.not_lt_zero k)⟩

/-! ### The whole history -/

/-- **The law of syncs.**  After any number of syncs that have succeeded, the row at a URL about
    which they said something has kept its identifier and its time of creation, and has what was
    said last.  The same snapshot again changes nothing but the time. -/
theorem syncs_history {r m r' : Registry} {ss₁ ss₂ : List Snapshot}
    (hk : r.database.tables.Keyed) (h₁ : Syncs r ss₁ m) (h₂ : Syncs m ss₂ r') :
    (∀ url, (∃ s ∈ ss₁ ++ ss₂, ∃ d ∈ s.definitions, d.url = url) →
      History url r ss₁ m ss₂ r') ∧
      ∀ terms s rep r'', r'.sync terms s = (.ok rep, r'') → ∀ terms', Again terms' s r'' := by
  constructor
  · intro url hurl
    exact h₁.history hk h₂ hurl
  · intro terms s rep r'' hsync terms'
    exact again_of_sync ((h₁.append h₂).keyed hk) hsync terms'

/-! ### A cluster that is created, and named anew -/

def named (name tokenProvider : String) : Snapshot :=
  Snapshot.ofList [{ (Context.bare "https://a/").toDefinition with name, tokenProvider }]

def firstSync : Registry :=
  ((Context.blank .sqlite).sync Context.halfMinute (named "one" "idp")).2

def secondSync : Registry := (firstSync.sync Context.halfMinute (named "two" "")).2

theorem sync_of_toOption {r : Registry} {terms : Terms} {s : Snapshot} {rep : SyncReport}
    (h : (r.sync terms s).1.toOption = some rep) :
    r.sync terms s = (.ok rep, (r.sync terms s).2) :=
  Prod.ext (Registry.ok_of_toOption h) rfl

theorem syncs_firstSync : Syncs (Context.blank .sqlite) [named "one" "idp"] firstSync :=
  .snoc .nil (sync_of_toOption (by decide +kernel : _ = some ⟨1, 0⟩))

theorem syncs_secondSync : Syncs firstSync [named "two" ""] secondSync :=
  .snoc .nil (sync_of_toOption (by decide +kernel : _ = some ⟨0, 1⟩))

theorem named_history :
    (Context.blank .sqlite).database.tables.Keyed ∧
      Syncs (Context.blank .sqlite) [named "one" "idp"] firstSync ∧
      Syncs firstSync [named "two" ""] secondSync ∧
      (∀ url, (∃ s ∈ [named "one" "idp"] ++ [named "two" ""], ∃ d ∈ s.definitions, d.url = url) →
        History url (Context.blank .sqlite) [named "one" "idp"] firstSync [named "two" ""]
          secondSync) ∧
      ∀ terms s rep r'', secondSync.sync terms s = (.ok rep, r'') → ∀ terms', Again terms' s r'' :=
  have h := syncs_history Tables.keyed_empty syncs_firstSync syncs_secondSync
  ⟨Tables.keyed_empty, syncs_firstSync, syncs_secondSync, h⟩

end Fleet.Sync
