/-
  Fleet/Proofs/Store/Reading.lean
  ===============================
  **All reading is from one relation.**

  There are seven ways to read: the list of all clusters and that of the clusters of a kind, the
  look-ups by identifier and by URL, the links of an identity, a single link, and the clusters of an
  identity.  On tidy tables none of them fails, and all of them agree with one list of the clusters
  in the rows (`Tables.Lists`): the other lists are parts of it, and what is looked up is what it
  has (`Tables.IsTidy.exists_views`).

  The list has one cluster for each row, because rows that the registry has written can be read
  again, and it ascends strictly, because no two rows have one URL.
-/
import Fleet.Proofs.Store.Links
import Fleet.Proofs.Text.Order

namespace Fleet

open Fleet.Text

theorem Kind.name_injective : Function.Injective Kind.name := by
  intro a b h
  have hname := congrArg Kind.ofName? h
  rwa [Kind.ofName?_name, Kind.ofName?_name, Option.some.injEq] at hname

namespace Store

/-! ### What rows hold -/

namespace Row

variable {r : Row} {c : Registered}

theorem IsSound.id_iff (h : r.IsSound) (hc : r.Holds c) (id : Uuid) :
    r.id = id.render ↔ c.id = id := by
  rw [← h.render_of_decode hc, Uuid.render_inj]

theorem Holds.kind_iff (hc : r.Holds c) (k : Kind) : r.kind = k.name ↔ c.kind = k := by
  rw [← kind_of_decode hc]
  exact Kind.name_injective.eq_iff

end Row

/-! ### The list of all clusters -/

namespace Tables

variable {t : Tables} {cs : List Registered}

/-- These are the clusters in the rows, one for each row, in the order of the bytes of their
    URLs. -/
structure Lists (t : Tables) (cs : List Registered) : Prop where
  each : ∃ rows, rows.Perm t.rows ∧ List.Forall₂ Row.Holds rows cs
  ascending : cs.Pairwise fun a b => bytes a.url < bytes b.url

/-- Everything that is read is read from this list and from the links. -/
structure Views (t : Tables) (ask : ∀ {α : Type}, Call α → Except Error α) (cs : List Registered) :
    Prop where
  decodes : ∀ r ∈ t.rows, ∃ c ∈ cs, r.Holds c
  lists : t.Lists cs
  all : ask (.list none) = .ok cs
  ofKind : ∀ k, ask (.list (some k)) = .ok (cs.filter (·.kind = k))
  byId : ∀ id, ∃ o, ask (.load id) = .ok o ∧ ∀ c, o = some c ↔ c ∈ cs ∧ c.id = id
  byUrl : ∀ url, ∃ o, ask (.find url) = .ok o ∧ ∀ c, o = some c ↔ c ∈ cs ∧ c.url = url
  linked : ∀ identity, ∃ ls, ask (.links identity) = .ok ls ∧
    ls.Perm (t.links.filter (·.identity = identity)) ∧
    ask (.clustersOf identity) = .ok (cs.filter fun c => c.id ∈ ls.map (·.cluster)) ∧
    ∀ cluster, ∃ o, ask (.loadLink identity cluster) = .ok o ∧
      ∀ l, o = some l ↔ l ∈ ls ∧ l.cluster = cluster

theorem mem_sorted {r : Row} : r ∈ t.sorted ↔ r ∈ t.rows := List.mem_mergeSort

theorem Keyed.lists (h : t.Keyed) (hcs : List.Forall₂ Row.Holds t.sorted cs) : t.Lists cs where
  each := ⟨t.sorted, List.mergeSort_perm _ _, hcs⟩
  ascending := by
    have hurls : (t.sorted.map (·.url)).Pairwise (· < ·) := List.pairwise_map.2 h.pairwise_sorted
    rw [← urls_of_holds hcs] at hurls
    refine (List.pairwise_map.1 hurls).imp ?_
    intro a b hab
    exact lt_iff_bytes_lt.1 hab

/-! ### Parts of the list -/

/-- What is selected by its rows is selected by its clusters. -/
theorem decodeAll_filter {rows : List Row} (h : List.Forall₂ Row.Holds rows cs) {p : Row → Bool}
    {q : Registered → Bool} (hpq : ∀ r ∈ rows, ∀ c, r.Holds c → (p r = true ↔ q c = true)) :
    Call.decodeAll (rows.filter p) = .ok (cs.filter q) := by
  apply Call.decodeAll_of_holds
  induction h with
  | nil => exact .nil
  | @cons r c rows cs hr _ ih =>
    obtain ⟨hhead, htail⟩ := List.forall_mem_cons.1 hpq
    have ih := ih htail
    by_cases hp : p r = true
    · rw [List.filter_cons_of_pos hp, List.filter_cons_of_pos ((hhead c hr).1 hp)]
      exact .cons hr ih
    · rw [List.filter_cons_of_neg hp, List.filter_cons_of_neg (hp ∘ (hhead c hr).2)]
      exact ih

/-- What is found in the rows is the only one of its kind in the list. -/
theorem decode?_find? (hsound : ∀ r ∈ t.rows, r.IsSound) (hcs : List.Forall₂ Row.Holds t.sorted cs)
    {p : Row → Bool} {q : Registered → Prop} (hpq : ∀ r ∈ t.rows, ∀ c, r.Holds c → (p r = true ↔ q c))
    (honly : ∀ a ∈ t.rows, ∀ b ∈ t.rows, p a = true → p b = true → a = b) :
    ∃ o, Call.decode? (t.rows.find? p) = .ok o ∧ ∀ c, o = some c ↔ c ∈ cs ∧ q c := by
  have hmem (c : Registered) : c ∈ cs ↔ ∃ r ∈ t.rows, r.Holds c := by
    rw [mem_iff_of_holds hcs]
    simp only [mem_sorted]
  cases hfind : t.rows.find? p with
  | none =>
    refine ⟨none, rfl, ?_⟩
    intro c
    rw [hmem]
    refine ⟨nofun, ?_⟩
    rintro ⟨⟨r, hr, hc⟩, hq⟩
    exact absurd ((hpq r hr c hc).2 hq) (List.find?_eq_none.1 hfind r hr)
  | some r =>
    have hr := List.mem_of_find?_eq_some hfind
    have hp := List.find?_some hfind
    obtain ⟨d, hd, -⟩ := (hsound r hr).decode
    refine ⟨some d, by rw [Call.decode?, hd]; rfl, ?_⟩
    intro c
    rw [hmem, Option.some.injEq]
    constructor
    · rintro rfl
      exact ⟨⟨r, hr, hd⟩, (hpq r hr d hd).1 hp⟩
    · rintro ⟨⟨r', hr', hc⟩, hq⟩
      obtain rfl := honly r' hr' r hr ((hpq r' hr' c hc).2 hq) hp
      exact Except.ok.inj (hd.symm.trans hc)

/-! ### Links -/

theorem linksOf_perm (t : Tables) (identity : Uuid) :
    (t.linksOf identity).Perm (t.links.filter (·.identity = identity)) :=
  List.mergeSort_perm _ _

theorem mem_linksOf {identity : Uuid} {l : Link} :
    l ∈ t.linksOf identity ↔ l ∈ t.links ∧ l.identity = identity := by
  rw [(t.linksOf_perm identity).mem_iff, List.mem_filter, decide_eq_true_eq]

theorem Intact.eq_of_pair (h : t.Intact) {l k : Link} (hl : l ∈ t.links) (hk : k ∈ t.links)
    (hpair : l.pair = k.pair) : l = k :=
  List.inj_on_of_nodup_map h.links hl hk hpair

theorem Intact.link?_eq_some_iff (h : t.Intact) {identity cluster : Uuid} {l : Link} :
    t.link? identity cluster = some l ↔ l ∈ t.linksOf identity ∧ l.cluster = cluster := by
  rw [mem_linksOf]
  constructor
  · intro hfind
    have hp := List.find?_some hfind
    rw [Bool.and_eq_true, decide_eq_true_eq, decide_eq_true_eq] at hp
    exact ⟨⟨List.mem_of_find?_eq_some hfind, hp.1⟩, hp.2⟩
  · rintro ⟨⟨hl, rfl⟩, rfl⟩
    cases hfind : t.link? l.identity l.cluster with
    | none =>
      have hne := List.find?_eq_none.1 hfind l hl
      simp at hne
    | some k =>
      have hp := List.find?_some hfind
      rw [Bool.and_eq_true, decide_eq_true_eq, decide_eq_true_eq] at hp
      have hpair : k.pair = l.pair := Prod.ext hp.1 hp.2
      rw [h.eq_of_pair (List.mem_of_find?_eq_some hfind) hl hpair]

/-! ### All reading -/

/-- **All reading is from one relation**: whatever is read from tidy tables is read from one list of
    clusters, which has each row once. -/
theorem IsTidy.exists_views (h : t.IsTidy) (b : Backend) (traps : List Trap) (now : Nat) :
    ∃ cs, t.Views (fun c => (c.perform b traps now t).reply) cs := by
  have hkeyed := h.intact.keyed
  have hsorted : ∀ r ∈ t.sorted, r.IsSound := by
    intro r hr
    exact h.sound r (mem_sorted.1 hr)
  obtain ⟨cs, hcs⟩ := exists_holds hsorted
  refine ⟨cs, ?_, hkeyed.lists hcs, ?_, ?_, ?_, ?_, ?_⟩
  · intro r hr
    obtain ⟨c, hc, -⟩ := (h.sound r hr).decode
    exact ⟨c, (mem_iff_of_holds hcs c).2 ⟨r, mem_sorted.2 hr, hc⟩, hc⟩
  · have hall : t.sorted.filter (fun r => (none : Option Kind).all fun k => r.kind = k.name) =
        t.sorted := List.filter_eq_self.2 fun _ _ => rfl
    change Call.decodeAll (t.sorted.filter _) = _
    rw [hall]
    exact Call.decodeAll_of_holds hcs
  · intro k
    apply decodeAll_filter hcs
    intro r _ c hc
    simpa using hc.kind_iff k
  · intro id
    apply decode?_find? h.sound hcs
    · intro r hr c hc
      simpa using (h.sound r hr).id_iff hc id
    · intro a ha b hb hida hidb
      exact hkeyed.eq_of_id ha hb ((of_decide_eq_true hida).trans (of_decide_eq_true hidb).symm)
  · intro url
    apply decode?_find? h.sound hcs
    · intro r _ c hc
      rw [decide_eq_true_eq, hc.url_eq]
    · intro a ha b hb hurla hurlb
      exact hkeyed.eq_of_url ha hb ((of_decide_eq_true hurla).trans (of_decide_eq_true hurlb).symm)
  · intro identity
    refine ⟨t.linksOf identity, rfl, t.linksOf_perm identity, ?_, ?_⟩
    · change Call.decodeAll (t.rowsOf identity) = _
      apply decodeAll_filter hcs
      intro r hr c hc
      have hid := (hsorted r hr).render_of_decode hc
      simp [mem_linksOf, Row.isTarget_iff, ← hid, and_assoc]
    · intro cluster
      exact ⟨_, rfl, fun l => h.intact.link?_eq_some_iff⟩

end Tables

end Store

end Fleet
