/-
  Fleet/Proofs/Config/Report.lean
  ===============================
  **What is reported when a cluster file is refused.**

  `IsReport` says what a report on a list of items is made of: an issue with the document if the
  list is empty, then what is wrong with each item on its own, item by item, and then the records
  that are known by the URL of an earlier one (`Repeats`).  What is wrong with an item on its own
  is a matter of the item and its index (`OwnIssues`).  Indices count all items, records or not.

  The check for repetitions goes through the records once, with the URLs that it has seen.  What
  it has seen of a list is where each URL comes first in it, so what it reports can be said item by
  item (`duplicateIssues_prepared`).

  A report tells nothing twice (`nodup_told_issuesOf`), not even in words: issues with different
  items differ in the index, those with one item in the field, and an endpoint that is both bad
  and a repetition is told of in different words.
-/
import Fleet.Proofs.Config.Acceptance
import Fleet.Proofs.Config.Rules

namespace Fleet.Config

open Fleet.Text
open Fleet.Json (Fields)

variable {items : List Json} {index : Nat} {r : Record} {url : String} {x : Issue}

/-! ### Records that are known by the URL of an earlier one -/

/-- The URL by which a record is known: what it says, if that is not blank, without blanks around
    it and with a slash at its end. -/
def Record.knownAs? (r : Record) : Option String :=
  ((r.text? "api-url").filter (!isBlankText ·)).map withSlash

/-- This is the first item that is a record known by the URL. -/
def IsFirst (items : List Json) (url : String) (first : Nat) : Prop :=
  (∃ r : Record, items[first]? = some (.obj r) ∧ r.knownAs? = some url) ∧
    ∀ i < first, ∀ r : Record, items[i]? = some (.obj r) → r.knownAs? ≠ some url

/-- The issues are those with the records that are known by the URL of an earlier one, in order. -/
structure Repeats (items : List Json) (is : List Issue) : Prop where
  mem_iff : ∀ x, x ∈ is ↔ ∃ (index : Nat) (r : Record) (url : String) (first : Nat),
    items[index]? = some (.obj r) ∧ r.knownAs? = some url ∧ IsFirst items url first ∧
      first < index ∧ x = r.issue index "api-url" (.duplicate url first)
  ordered : is.Pairwise fun x y => ∃ i j, x.record = some i ∧ y.record = some j ∧ i < j

/-- In the end a record goes by the URL by which it is known. -/
theorem endpointOf_withDefaults (r : Record) : endpointOf r.withDefaults = r.knownAs? := by
  rw [endpointOf, Record.text?_withDefaults, Record.knownAs?]
  cases hs : r.text? "api-url" with
  | some s =>
    rw [Record.value?_of_text? (by decide) hs]
    cases hblank : isBlankText s <;> simp [Json.str?, hblank, Option.filter, isBlankText_withSlash]
  | none =>
    have hnone : (r.value? "api-url").bind Json.str? = none := by
      cases hv : r.value? "api-url" with
      | none => rfl
      | some v =>
        cases v with
        | str s =>
          rcases Record.url_cases_of_value? (by decide) hv with
            ⟨hs', -⟩ | ⟨raw, hs', -⟩ | ⟨hget, -⟩
          · rw [hs] at hs'
            cases hs'
          · rw [hs] at hs'
            cases hs'
          · rw [Record.value?_eq_default hget] at hv
            cases hv
        | _ => rfl
    rw [hnone]
    rfl

def itemUrl? : Json → Option String
  | .obj r => Record.knownAs? r
  | _ => none

/-- Where a URL comes first. -/
def firstWith (items : List Json) (url : String) : Option Nat :=
  items.findIdx? (itemUrl? · = some url)

theorem itemUrl?_eq_some_iff {j : Json} :
    itemUrl? j = some url ↔ ∃ r : Record, j = .obj r ∧ r.knownAs? = some url := by
  cases j <;> simp [itemUrl?]

theorem firstWith_eq_some_iff {first : Nat} :
    firstWith items url = some first ↔ IsFirst items url first := by
  rw [firstWith, List.findIdx?_eq_some_iff_getElem, IsFirst]
  simp only [decide_eq_true_eq, itemUrl?_eq_some_iff]
  constructor
  · rintro ⟨hlt, ⟨r, hr, hurl⟩, hbefore⟩
    refine ⟨⟨r, by rw [List.getElem?_eq_getElem hlt, hr], hurl⟩, fun i hi r' hr' hurl' => ?_⟩
    refine hbefore i hi ⟨r', ?_, hurl'⟩
    rw [List.getElem?_eq_getElem (hi.trans hlt)] at hr'
    exact Option.some.inj hr'
  · rintro ⟨⟨r, hr, hurl⟩, hbefore⟩
    obtain ⟨hlt, hr⟩ := List.getElem?_eq_some_iff.1 hr
    refine ⟨hlt, ⟨r, hr, hurl⟩, fun i hi ⟨r', hr', hurl'⟩ => ?_⟩
    exact hbefore i hi r' (by rw [List.getElem?_eq_getElem (hi.trans hlt), hr']) hurl'

theorem firstWith_concat (front : List Json) (j : Json) (url : String) :
    firstWith (front ++ [j]) url =
      (firstWith front url).or (if itemUrl? j = some url then some front.length else none) := by
  rw [firstWith, List.findIdx?_append, List.findIdx?_singleton]
  congr 1
  split <;> simp_all

/-- Where a URL comes first in the front of a list does not depend on what follows. -/
theorem filter_firstWith_append (front back : List Json) (url : String) :
    (firstWith (front ++ back) url).filter (· < front.length) = firstWith front url := by
  rw [firstWith, List.findIdx?_append, ← firstWith]
  cases hfirst : firstWith front url with
  | some first =>
    obtain ⟨⟨r, hr, -⟩, -⟩ := firstWith_eq_some_iff.1 hfirst
    have hlt := (List.getElem?_eq_some_iff.1 hr).1
    simp [Option.filter, hlt]
  | none =>
    rw [Option.none_or, Option.filter_eq_none_iff]
    intro i hi
    obtain ⟨k, -, rfl⟩ := Option.map_eq_some_iff.1 hi
    simp

/-- The issue with an item whose URL has come before at some index. -/
def repeatAt (before? : String → Option Nat) (index : Nat) : Json → Option Issue
  | .obj r =>
    (Record.knownAs? r).bind fun url =>
      (before? url).map fun first => Record.issue index r "api-url" (.duplicate url first)
  | _ => none

/-- The issue with an item that an earlier one repeats. -/
def repeatOf (items : List Json) (index : Nat) : Json → Option Issue :=
  repeatAt (fun url => (firstWith items url).filter (· < index)) index

/-- What has been seen once an item has been looked at. -/
def note (seen : List (String × Nat)) (index : Nat) (j : Json) : List (String × Nat) :=
  match itemUrl? j with
  | some url => if (seen.lookup url).isSome then seen else (url, index) :: seen
  | none => seen

/-- One step of the check. -/
theorem duplicateIssues_cons (seen : List (String × Nat)) (j : Json) (index : Nat)
    (rest : List (Json × Nat)) :
    duplicateIssues seen (prepared ((j, index) :: rest)) =
      (repeatAt (seen.lookup ·) index j).toList ++
        duplicateIssues (note seen index j) (prepared rest) := by
  cases j with
  | obj r =>
    rw [prepared_obj, duplicateIssues, endpointOf_withDefaults, repeatAt, note, itemUrl?]
    cases hr : Record.knownAs? r with
    | none => rfl
    | some url =>
      cases hseen : seen.lookup url with
      | none => simp [hseen]
      | some first => simp [hseen, Record.issue_withDefaults]
  | _ => rfl

theorem lookup_note {seen : List (String × Nat)} {front : List Json}
    (hseen : ∀ url, seen.lookup url = firstWith front url) (j : Json) (url : String) :
    (note seen front.length j).lookup url = firstWith (front ++ [j]) url := by
  rw [firstWith_concat, ← hseen, note]
  cases hurl : itemUrl? j with
  | none => simp
  | some url' =>
    by_cases heq : url' = url
    · subst heq
      cases hlookup : seen.lookup url' <;> simp [hlookup]
    · have hne : (url == url') = false := by simpa using Ne.symm heq
      cases hlookup : seen.lookup url' <;> simp [hlookup, heq, List.lookup_cons, hne]

/-- **What has been seen of a list is where each URL comes first in it.**  So the check reports,
    item by item, those that an earlier one repeats. -/
theorem duplicateIssues_prepared {seen : List (String × Nat)} (front back : List Json)
    (hseen : ∀ url, seen.lookup url = firstWith front url) :
    duplicateIssues seen (prepared (back.zipIdx front.length)) =
      (back.zipIdx front.length).filterMap fun p => repeatOf (front ++ back) p.2 p.1 := by
  induction back generalizing front seen with
  | nil => rfl
  | cons j back ih =>
    have hrest := ih (front ++ [j]) (lookup_note hseen j)
    rw [List.length_append, List.length_singleton, List.append_assoc, List.singleton_append] at hrest
    have hhere : repeatAt (seen.lookup ·) front.length j =
        repeatOf (front ++ j :: back) front.length j := by
      simp only [repeatOf, filter_firstWith_append, hseen]
    rw [List.zipIdx_cons, duplicateIssues_cons, hrest, hhere, List.filterMap_cons]
    cases repeatOf (front ++ j :: back) front.length j <;> rfl

theorem repeatOf_eq_some_iff : repeatOf items index (.obj r) = some x ↔
    ∃ url first, r.knownAs? = some url ∧ IsFirst items url first ∧ first < index ∧
      x = r.issue index "api-url" (.duplicate url first) := by
  simp only [repeatOf, repeatAt, Option.bind_eq_some_iff, Option.map_eq_some_iff,
    Option.filter_eq_some_iff, firstWith_eq_some_iff, decide_eq_true_eq]
  constructor
  · rintro ⟨url, hurl, first, ⟨hfirst, hlt⟩, rfl⟩
    exact ⟨url, first, hurl, hfirst, hlt, rfl⟩
  · rintro ⟨url, first, hurl, hfirst, hlt, rfl⟩
    exact ⟨url, hurl, first, ⟨hfirst, hlt⟩, rfl⟩

theorem exists_record_of_repeatOf {j : Json} (h : repeatOf items index j = some x) :
    ∃ r : Record, j = .obj r := by
  cases j with
  | obj r => exact ⟨r, rfl⟩
  | _ => cases h

theorem record_of_repeatOf {j : Json} (h : repeatOf items index j = some x) :
    x.record = some index := by
  obtain ⟨r, rfl⟩ := exists_record_of_repeatOf h
  obtain ⟨url, first, -, -, -, rfl⟩ := repeatOf_eq_some_iff.1 h
  rfl

/-- Indices go up along a list. -/
theorem pairwise_zipIdx (items : List Json) : items.zipIdx.Pairwise fun p q => p.2 < q.2 := by
  rw [List.pairwise_iff_getElem]
  intro i k hi hk hlt
  simpa using hlt

theorem repeats_duplicateIssues (items : List Json) :
    Repeats items (duplicateIssues [] (prepared items.zipIdx)) := by
  rw [show duplicateIssues [] (prepared items.zipIdx) =
    items.zipIdx.filterMap fun p => repeatOf items p.2 p.1 from
    duplicateIssues_prepared [] items fun _ => rfl]
  constructor
  · intro x
    rw [List.mem_filterMap]
    constructor
    · rintro ⟨⟨j, index⟩, hj, hx⟩
      obtain ⟨r, rfl⟩ := exists_record_of_repeatOf hx
      obtain ⟨url, first, hx⟩ := repeatOf_eq_some_iff.1 hx
      exact ⟨index, r, url, first, List.mk_mem_zipIdx_iff_getElem?.1 hj, hx⟩
    · rintro ⟨index, r, url, first, hr, hx⟩
      exact ⟨(.obj r, index), List.mk_mem_zipIdx_iff_getElem?.2 hr,
        repeatOf_eq_some_iff.2 ⟨url, first, hx⟩⟩
  · rw [List.pairwise_filterMap]
    refine (pairwise_zipIdx items).imp ?_
    intro p q hlt x hx y hy
    exact ⟨p.2, q.2, record_of_repeatOf hx, record_of_repeatOf hy, hlt⟩

/-! ### What is wrong with an item on its own -/

/-- The issues are those with the record on its own: the rules that it breaks, one for each field,
    and nothing about other URLs if that of the API is at fault. -/
structure Record.OwnIssues (r : Record) (index : Nat) (is : List Issue) : Prop where
  mem_iff : ∀ x, x ∈ is ↔ ∃ f ∈ Field.all, ∃ c, r.Breaks f c ∧ x = r.issue index f.name c
  exists_iff : ∀ f ∈ Field.all, (∃ x ∈ is, x.field = some f.name) ↔ ∃ c, r.Breaks f c
  once : (is.map (·.field)).Nodup
  quiet : ∀ f ∈ Field.all, f.name = "api-url" → ∀ c, r.Breaks f c →
    ∀ x ∈ is, ∀ api, x.cause ≠ .underivable api

/-- The issues are those with the item at this index on its own. -/
inductive OwnIssues (index : Nat) : Json → List Issue → Prop where
  | record {r : Record} {is : List Issue} (h : r.OwnIssues index is) : OwnIssues index (.obj r) is
  | other {j : Json} (h : ∀ r : Record, j ≠ .obj r) :
      OwnIssues index j [⟨some index, none, none, .notObject⟩]

/-- If nothing can be derived from the endpoint of the API, that is an endpoint. -/
theorem Record.Breaks.api_of_underivable {f g : Field} {c : Issue.Cause} {api : String}
    (hf : f ∈ Field.all) (hname : f.name = "api-url") (h : r.Breaks g (.underivable api)) :
    ¬ r.Breaks f c := by
  intro hbreaks
  cases h with
  | underivable hd hnone hs hparse hderive =>
    obtain ⟨u, hu, -⟩ := Endpoint.parse_of_withSlash hparse
    rw [← hname] at hs
    rcases hbreaks.of_some hf (Record.get?_of_text? hs) with ⟨hkind, -⟩ | ⟨-, s, hs', hwhy⟩
    · rw [Field.kind_of_url hf (by rw [hname]; decide)] at hkind
      cases hkind
    · cases hs'
      rcases hwhy with ⟨-, hblank, -⟩ | ⟨htype, -⟩ | ⟨-, -, why, hwhy, -⟩
      · rw [Endpoint.not_blank_of_parse hu] at hblank
        cases hblank
      · rw [hname] at htype
        revert htype
        decide
      · rw [hparse] at hwhy
        cases hwhy

theorem Record.ownIssues (r : Record) (index : Nat) : r.OwnIssues index (r.issues index) := by
  have h := r.reports_issues index
  have hmem : ∀ x, x ∈ r.issues index ↔
      ∃ f ∈ Field.all, ∃ c, r.Breaks f c ∧ x = r.issue index f.name c := by
    simpa using h.mem_iff
  refine ⟨hmem, ?_, h.once, ?_⟩
  · intro f hf
    constructor
    · rintro ⟨x, hx, hfield⟩
      obtain ⟨g, hg, c, hbreaks, rfl⟩ := (hmem x).1 hx
      obtain rfl := Field.eq_of_name_eq hf hg (Option.some.inj hfield).symm
      exact ⟨c, hbreaks⟩
    · rintro ⟨c, hbreaks⟩
      exact ⟨_, (hmem _).2 ⟨f, hf, c, hbreaks, rfl⟩, rfl⟩
  · intro f hf hname c hbreaks x hx api hcause
    obtain ⟨g, -, c', hbreaks', rfl⟩ := (hmem x).1 hx
    obtain rfl : c' = .underivable api := hcause
    exact hbreaks'.api_of_underivable hf hname hbreaks

theorem ownIssues_itemIssues (index : Nat) (j : Json) : OwnIssues index j (itemIssues index j) := by
  cases j with
  | obj r => exact .record (Record.ownIssues r index)
  | _ => exact .other (by simp)

theorem record_of_mem_itemIssues {j : Json} (h : x ∈ itemIssues index j) :
    x.record = some index := by
  cases j with
  | obj r =>
    obtain ⟨f, -, c, -, rfl⟩ := ((Record.ownIssues r index).mem_iff x).1 h
    rfl
  | _ => rw [List.mem_singleton.1 h]

/-! ### Telling nothing twice -/

/-- What an issue tells: the record, the key and the words. -/
def Issue.told (x : Issue) : Option Nat × Option String × Option String × String :=
  (x.record, x.name, x.field, x.message)

theorem append_ne_append {s t : String} {k : Nat} (hs : k < s.toList.length)
    (ht : k < t.toList.length) (h : s.toList[k]? ≠ t.toList[k]?) (u v : String) :
    s ++ u ≠ t ++ v := by
  intro heq
  have heq := congrArg (·.toList[k]?) heq
  simp only [String.toList_append, List.getElem?_append_left hs, List.getElem?_append_left ht] at heq
  exact h heq

/-- An endpoint that is bad is told of in other words than one that is known already. -/
theorem message_badUrl_ne (url : String) (why : Endpoint.Fault) (first : Nat) :
    Issue.Cause.message (.badUrl url why) ≠ Issue.Cause.message (.duplicate url first) := by
  intro heq
  cases why with
  | notUrl why =>
    have heq : "'" ++ url ++ ("' is not a valid URL: " ++ why.message) =
        "'" ++ url ++ ("' is already used by clusters[" ++ (toString first ++ "]")) := by
      rw [← String.append_assoc, ← String.append_assoc, ← String.append_assoc]
      exact heq
    exact append_ne_append (k := 5) (by decide) (by decide) (by decide) _ _
      ((String.append_right_inj _).1 heq)
  | otherScheme =>
    have heq : "'" ++ url ++ ("' must use http or https" ++ "") =
        "'" ++ url ++ ("' is already used by clusters[" ++ (toString first ++ "]")) := by
      rw [String.append_empty, ← String.append_assoc, ← String.append_assoc]
      exact heq
    exact append_ne_append (k := 5) (by decide) (by decide) (by decide) _ _
      ((String.append_right_inj _).1 heq)

/-- A record that repeats another one has nothing else wrong with its endpoint but that it may be
    bad, which is told in other words. -/
theorem told_ne_of_repeatOf {j : Json} {y : Issue} (hx : x ∈ itemIssues index j)
    (hy : repeatOf items index j = some y) : x.told ≠ y.told := by
  obtain ⟨r, rfl⟩ := exists_record_of_repeatOf hy
  obtain ⟨url, first, hurl, -, -, rfl⟩ := repeatOf_eq_some_iff.1 hy
  obtain ⟨f, hf, c, hbreaks, rfl⟩ := ((r.ownIssues index).mem_iff x).1 hx
  obtain ⟨s, hs, rfl⟩ := Option.map_eq_some_iff.1 hurl
  obtain ⟨hs, hblank⟩ := Option.filter_eq_some_iff.1 hs
  intro heq
  obtain ⟨hname, hmessage⟩ : f.name = "api-url" ∧
      c.message = Issue.Cause.message (.duplicate (withSlash s) first) := by
    simpa [Issue.told, Record.issue, Issue.message] using heq
  rw [← hname] at hs
  rcases hbreaks.of_some hf (Record.get?_of_text? hs) with ⟨hkind, -⟩ | ⟨-, s', hs', hwhy⟩
  · rw [Field.kind_of_url hf (by rw [hname]; decide)] at hkind
    cases hkind
  · cases hs'
    rcases hwhy with ⟨-, hblank', -⟩ | ⟨htype, -⟩ | ⟨-, -, why, -, rfl⟩
    · rw [hblank'] at hblank
      cases hblank
    · rw [hname] at htype
      revert htype
      decide
    · exact message_badUrl_ne _ why first hmessage

theorem told_ne_of_record {y : Issue} {i k : Nat} (hx : x.record = some i) (hy : y.record = some k)
    (h : i ≠ k) : x.told ≠ y.told := by
  intro heq
  have hrecord : x.record = y.record := congrArg (·.1) heq
  rw [hx, hy] at hrecord
  exact h (Option.some.inj hrecord)

theorem pairwise_told_itemIssues (index : Nat) (j : Json) :
    (itemIssues index j).Pairwise fun x y => x.told ≠ y.told := by
  cases j with
  | obj r =>
    have honce := (Record.ownIssues r index).once
    refine (List.pairwise_map.1 honce).imp fun hne heq => hne ?_
    exact congrArg (·.2.2.1) heq
  | _ => exact List.pairwise_singleton _ _

/-- **A report tells nothing twice.** -/
theorem nodup_told_issuesOf (items : List Json) : ((issuesOf items).map Issue.told).Nodup := by
  have hown : (items.zipIdx.flatMap fun p => itemIssues p.2 p.1).Pairwise
      fun x y => x.told ≠ y.told := by
    rw [List.pairwise_flatMap]
    refine ⟨fun p _ => pairwise_told_itemIssues p.2 p.1, (pairwise_zipIdx items).imp ?_⟩
    intro p q hlt x hx y hy
    exact told_ne_of_record (record_of_mem_itemIssues hx) (record_of_mem_itemIssues hy) hlt.ne
  have hrepeats := repeats_duplicateIssues items
  have hbetween : ∀ x ∈ items.zipIdx.flatMap fun p => itemIssues p.2 p.1,
      ∀ y ∈ duplicateIssues [] (prepared items.zipIdx), x.told ≠ y.told := by
    intro x hx y hy
    obtain ⟨⟨j, i⟩, hj, hx⟩ := List.mem_flatMap.1 hx
    obtain ⟨k, r, url, first, hr, hy⟩ := (hrepeats.mem_iff y).1 hy
    by_cases heq : i = k
    · subst heq
      obtain rfl : j = .obj r := Option.some.inj
        ((List.mk_mem_zipIdx_iff_getElem?.1 hj).symm.trans hr)
      exact told_ne_of_repeatOf hx (repeatOf_eq_some_iff.2 ⟨url, first, hy⟩)
    · refine told_ne_of_record (record_of_mem_itemIssues hx) ?_ heq
      rw [hy.2.2.2]
      rfl
  have hordered : (duplicateIssues [] (prepared items.zipIdx)).Pairwise
      fun x y => x.told ≠ y.told :=
    hrepeats.ordered.imp fun ⟨i, k, hi, hk, hlt⟩ => told_ne_of_record hi hk hlt.ne
  rw [issuesOf, List.Nodup, List.pairwise_map, List.append_assoc]
  cases items with
  | nil => exact List.pairwise_singleton _ _
  | cons j items =>
    rw [if_neg (by simp), List.nil_append, List.pairwise_append]
    exact ⟨hown, hordered, hbetween⟩

/-! ### Reports -/

/-- The report says all that is wrong with the items: that there are none, what is wrong with each
    of them on its own, and which of them are repetitions. -/
structure IsReport (items : List Json) (report : List Issue) : Prop where
  parts : ∃ repeats, Repeats items repeats ∧ report =
    (if items = [] then [Issue.ofDocument .empty] else []) ++
      items.zipIdx.flatMap (fun p => itemIssues p.2 p.1) ++ repeats
  /-- What is wrong with an item on its own is a matter of the item and its index. -/
  own : ∀ index j, items[index]? = some j → OwnIssues index j (itemIssues index j)
  distinct : (report.map Issue.told).Nodup

theorem isReport_issuesOf (items : List Json) : IsReport items (issuesOf items) where
  parts := by
    refine ⟨_, repeats_duplicateIssues items, ?_⟩
    rw [issuesOf]
    cases items <;> rfl
  own index j _ := ownIssues_itemIssues index j
  distinct := nodup_told_issuesOf items

/-- **The report on a cluster file is complete, and tells nothing twice.**  A file that lists some
    items is refused with issues exactly if there are any, and then the report is made of what is
    wrong with the items. -/
theorem ofJson_reports {document : Json} (h : Lists document items) :
    IsReport items (issuesOf items) ∧
      ∀ report, ofJson document = .error (.invalid report) ↔
        report = issuesOf items ∧ report ≠ [] := by
  refine ⟨isReport_issuesOf items, fun report => ?_⟩
  rw [ofJson, definitionsOf, recordsOf_eq_ok_iff.2 h]
  dsimp only
  cases hissues : issuesOf items with
  | nil =>
    refine iff_of_false (fun herror => ?_) fun hnone => hnone.2 hnone.1
    cases hds : (prepared items.zipIdx).mapM fun p => Definition.ofJson (.obj p.2) <;>
      rw [hds] at herror <;> cases herror
  | cons x xs =>
    constructor
    · intro herror
      cases herror
      exact ⟨rfl, List.cons_ne_nil x xs⟩
    · rintro ⟨rfl, -⟩
      rfl

/-- Two records of one URL, spelt differently, behind something that is no record.  The URL is no
    endpoint, and much is missing. -/
def tangle : List Json := [
  .null,
  .obj [("api-url", .str "ftp://api.example.com"), ("name", .str "first")],
  .obj [("api-url", .str " ftp://api.example.com/ "), ("name", .num (.int 2))]]

theorem tangle_reports : Lists (.arr tangle) tangle ∧ IsReport tangle (issuesOf tangle) ∧
    ofJson (.arr tangle) = .error (.invalid (issuesOf tangle)) ∧
    (issuesOf tangle).getLast?.map Issue.render =
      some "clusters[2]: api-url: 'ftp://api.example.com/' is already used by clusters[1]" := by
  have hlists : Lists (.arr tangle) tangle := .inl rfl
  have hlast : (issuesOf tangle).getLast?.map Issue.render =
      some "clusters[2]: api-url: 'ftp://api.example.com/' is already used by clusters[1]" := by
    decide +kernel
  obtain ⟨hreport, hrefused⟩ := ofJson_reports hlists
  refine ⟨hlists, hreport, (hrefused _).2 ⟨rfl, ?_⟩, hlast⟩
  intro hnone
  rw [hnone] at hlast
  cases hlast

end Fleet.Config
