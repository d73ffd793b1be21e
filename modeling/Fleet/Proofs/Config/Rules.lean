/-
  Fleet/Proofs/Config/Rules.lean
  ==============================
  **What is reported of a record on its own.**

  `Record.Breaks` says how a record breaks the rule of a field, in terms of the record as it is
  written.  The checks look at the record in five rounds, four of them once it has its defaults,
  and each round reports one kind of break.  Filling in defaults neither hides a break nor makes
  one: a default passes all checks, and what is derived is derived from the endpoint of the API
  whether it has got its slash or not.

  So all that is reported are the breaks, and since a record breaks the rule of a field in one way
  only (`Record.Breaks.unique`), no field is reported twice (`Record.reports_issues`).
-/
import Fleet.Proofs.Config.Closure

namespace Fleet.Config

open Fleet.Text
open Fleet.Json (Fields)

/-! ### Facts about the tables -/

theorem Field.eq_of_name_eq {f g : Field} (hf : f ∈ all) (hg : g ∈ all) (h : f.name = g.name) :
    f = g := by
  have htable : ∀ f ∈ all, ∀ g ∈ all, f.name = g.name → f = g := by decide
  exact htable f hf g hg h

theorem Field.exists_field_of_url {key : String} (hkey : key ∈ urls) :
    ∃ f ∈ all, f.name = key ∧ f.kind = .text := by
  have htable : ∀ key ∈ urls, ∃ f ∈ all, f.name = key ∧ f.kind = .text := by decide
  exact htable key hkey

theorem Field.kind_of_url {f : Field} (hf : f ∈ all) (hurl : f.name ∈ urls) : f.kind = .text := by
  have htable : ∀ f ∈ all, f.name ∈ urls → f.kind = .text := by decide
  exact htable f hf hurl

/-- The keys of endpoints that can be derived are not required. -/
theorem Field.required_of_default {f : Field} {d : Default} (hf : f ∈ all)
    (hd : (f.name, d) ∈ defaults) : f.required = false := by
  have htable : ∀ f ∈ all, ∀ p ∈ defaults, p.1 = f.name → f.required = false := by decide
  exact htable f hf _ hd rfl

theorem Field.not_required_of_type {f : Field} (hf : f ∈ all) (hname : f.name = "type") :
    f.kind = .text ∧ f.required = false := by
  have htable : ∀ f ∈ all, f.name = "type" → f.kind = .text ∧ f.required = false := by decide
  exact htable f hf hname

theorem isSome_ofName?_eq_false {s : String} (h : ∀ k : Kind, s ≠ k.name) :
    (Kind.ofName? s).isSome = false := by
  rw [Option.isSome_eq_false_iff, Option.isNone_iff_eq_none, Kind.ofName?, List.find?_eq_none]
  intro k _
  simpa using (h k).symm

namespace Record

variable {r : Record} {f : Field} {c c' : Issue.Cause} {index : Nat} {x : Issue} {key s : String}

/-! ### Breaking a rule -/

/-- How a record breaks the rule of a field. -/
inductive Breaks (r : Record) : Field → Issue.Cause → Prop where
  | wrongKind {f : Field} {v : Json} (hv : Fields.get? f.name r = some v)
      (hkind : f.kind.admits v = false) : Breaks r f (.wrongKind f.kind v)
  | missing {f : Field} (hrequired : f.required = true) (hnone : Fields.get? f.name r = none) :
      Breaks r f .missing
  | blank {f : Field} {s : String} (hrequired : f.required = true) (hs : r.text? f.name = some s)
      (hblank : isBlankText s = true) : Breaks r f .blank
  | unknownKind {f : Field} {s : String} (hname : f.name = "type") (hs : r.text? f.name = some s)
      (hkind : ∀ k : Kind, s ≠ k.name) : Breaks r f (.unknownKind s)
  /-- A URL that names no endpoint, without blanks around it and with a slash at its end. -/
  | badUrl {f : Field} {s : String} {why : Endpoint.Fault} (hurl : f.name ∈ Field.urls)
      (hs : r.text? f.name = some s) (hblank : isBlankText s = false)
      (hparse : Endpoint.parse (withSlash s) = .error why) : Breaks r f (.badUrl (withSlash s) why)
  /-- A missing URL, and the endpoint of the API is fine but has nothing to derive it from. -/
  | underivable {f : Field} {label path s : String} {api : Url}
      (hd : (f.name, Default.derived label path) ∈ Field.defaults)
      (hnone : Fields.get? f.name r = none) (hs : r.text? "api-url" = some s)
      (hparse : Endpoint.parse (withSlash s) = .ok api)
      (hderive : Endpoint.derive? api label path = none) : Breaks r f (.underivable (withSlash s))

/-- A record that lacks a key lacks a required one, or one that cannot be derived. -/
theorem Breaks.of_none (hf : f ∈ Field.all) (hnone : Fields.get? f.name r = none)
    (h : r.Breaks f c) : (f.required = true ∧ c = .missing) ∨
      (f.required = false ∧ ∃ s, r.text? "api-url" = some s ∧ c = .underivable (withSlash s)) := by
  have hsays : ∀ {s}, r.text? f.name ≠ some s := by
    intro s hs
    rw [get?_of_text? hs] at hnone
    cases hnone
  cases h with
  | wrongKind hv => rw [hnone] at hv; cases hv
  | missing hrequired => exact .inl ⟨hrequired, rfl⟩
  | blank _ hs => exact absurd hs hsays
  | unknownKind _ hs => exact absurd hs hsays
  | badUrl _ hs => exact absurd hs hsays
  | underivable hd _ hs => exact .inr ⟨Field.required_of_default hf hd, _, hs, rfl⟩

/-- What is wrong with a value is that it is of another kind, or it is a text. -/
theorem Breaks.of_some (hf : f ∈ Field.all) {v : Json} (hv : Fields.get? f.name r = some v)
    (h : r.Breaks f c) : (f.kind.admits v = false ∧ c = .wrongKind f.kind v) ∨
      (f.kind.admits v = true ∧ ∃ s, v = .str s ∧
        ((f.required = true ∧ isBlankText s = true ∧ c = .blank) ∨
          (f.name = "type" ∧ c = .unknownKind s) ∨
          (f.name ∈ Field.urls ∧ isBlankText s = false ∧
            ∃ why, Endpoint.parse (withSlash s) = .error why ∧ c = .badUrl (withSlash s) why))) := by
  have htext : ∀ {s}, r.text? f.name = some s → v = .str s := by
    intro s hs
    rw [get?_of_text? hs] at hv
    exact (Option.some.inj hv).symm
  cases h with
  | wrongKind hv' hkind =>
    rw [hv] at hv'
    cases hv'
    exact .inl ⟨hkind, rfl⟩
  | missing _ hnone => rw [hv] at hnone; cases hnone
  | underivable _ hnone => rw [hv] at hnone; cases hnone
  | blank hrequired hs hblank =>
    refine .inr ⟨?_, _, htext hs, .inl ⟨hrequired, hblank, rfl⟩⟩
    rw [htext hs, (Field.text_of_required hf hrequired).1]
    rfl
  | unknownKind hname hs =>
    refine .inr ⟨?_, _, htext hs, .inr (.inl ⟨hname, rfl⟩)⟩
    rw [htext hs, (Field.not_required_of_type hf hname).1]
    rfl
  | badUrl hurl hs hblank hparse =>
    refine .inr ⟨?_, _, htext hs, .inr (.inr ⟨hurl, hblank, _, hparse, rfl⟩)⟩
    rw [htext hs, Field.kind_of_url hf hurl]
    rfl

/-- **A record breaks the rule of a field in one way only.** -/
theorem Breaks.unique (hf : f ∈ Field.all) (h : r.Breaks f c) (h' : r.Breaks f c') : c = c' := by
  cases hv : Fields.get? f.name r with
  | none =>
    rcases h.of_none hf hv with ⟨hrequired, rfl⟩ | ⟨hrequired, s, hs, rfl⟩
    · rcases h'.of_none hf hv with ⟨-, rfl⟩ | ⟨hrequired', -⟩
      · rfl
      · rw [hrequired] at hrequired'
        cases hrequired'
    · rcases h'.of_none hf hv with ⟨hrequired', -⟩ | ⟨-, s', hs', rfl⟩
      · rw [hrequired] at hrequired'
        cases hrequired'
      · rw [hs] at hs'
        cases hs'
        rfl
  | some v =>
    have htype : f.name = "type" → f.required = false ∧ f.name ∉ Field.urls := fun hname =>
      ⟨(Field.not_required_of_type hf hname).2, by rw [hname]; decide⟩
    rcases h.of_some hf hv with ⟨hkind, rfl⟩ | ⟨hkind, s, rfl, hwhy⟩
    · rcases h'.of_some hf hv with ⟨-, rfl⟩ | ⟨hkind', -⟩
      · rfl
      · rw [hkind] at hkind'
        cases hkind'
    · rcases h'.of_some hf hv with ⟨hkind', -⟩ | ⟨-, s', hs, hwhy'⟩
      · rw [hkind] at hkind'
        cases hkind'
      · cases hs
        -- a required text that is blank, a type, and a URL that is not blank exclude each other
        grind

/-! ### What stays as it is when a record gets its defaults -/

theorem value?_of_no_default (hkey : key ∉ Field.urls) (hd : Field.defaults.lookup key = none) :
    r.value? key = Fields.get? key r := by
  rw [value?, if_neg hkey, filled?, hd, Option.bind_none, Option.or_none]

theorem issue_withDefaults (r : Record) (index : Nat) (key : String) (c : Issue.Cause) :
    r.withDefaults.issue index key c = r.issue index key c := by
  have hname : r.withDefaults.name? = r.name? := by
    rw [name?, name?, text?_withDefaults, value?_of_no_default (by decide) (by decide)]
    rfl
  rw [issue, issue, hname]

/-- A text under the key of a URL is the one that is written if that is blank, and else the one
    that is written with its final slash, or it is a default. -/
theorem url_cases_of_value? (hkey : key ∈ Field.urls) (h : r.value? key = some (.str s)) :
    (r.text? key = some s ∧ isBlankText s = true) ∨
      (∃ raw, r.text? key = some raw ∧ isBlankText raw = false ∧ s = withSlash raw) ∨
      (Fields.get? key r = none ∧ Endpoint.isValid s = true) := by
  cases hget : Fields.get? key r with
  | some v =>
    rw [value?, if_pos hkey, filled?, hget] at h
    cases v <;> simp only [Option.some_or, Option.map_some, withFinalSlash, Option.some.injEq,
      reduceCtorEq] at h
    rename_i raw
    split at h
    · rename_i hblank
      cases h
      exact .inl ⟨text?_of_get? hget, hblank⟩
    · rename_i hblank
      cases h
      exact .inr (.inl ⟨raw, text?_of_get? hget, by simpa using hblank, rfl⟩)
  | none =>
    rw [value?_eq_default hget] at h
    obtain ⟨d, hd, hv⟩ := Option.bind_eq_some_iff.1 h
    obtain ⟨s', hs, hvalid⟩ :=
      (withFinalSlash_of_default (Field.mem_defaults_of_lookup hd) hkey hv).2
    cases hs
    exact .inr (.inr ⟨rfl, hvalid⟩)

theorem get?_of_value?_eq_none (h : r.value? key = none) : Fields.get? key r = none := by
  have hfilled : r.filled? key = none := by
    rw [← Option.not_isSome_iff_eq_none, ← isSome_value?, h]
    exact Bool.false_ne_true
  exact (Option.or_eq_none_iff.1 hfilled).1

/-- A blank text that is no default has been written. -/
theorem text?_of_blank (hd : Field.defaults.lookup key = none) (h : r.value? key = some (.str s))
    (hblank : isBlankText s = true) : r.text? key = some s := by
  by_cases hkey : key ∈ Field.urls
  · rcases url_cases_of_value? hkey h with ⟨hs, -⟩ | ⟨raw, -, -, rfl⟩ | ⟨hnone, -⟩
    · exact hs
    · rw [isBlankText_withSlash] at hblank
      cases hblank
    · rw [value?_eq_default hnone, hd] at h
      cases h
  · rw [value?_of_no_default hkey hd] at h
    exact text?_of_get? h

theorem value?_of_blank (hs : r.text? key = some s) (hblank : isBlankText s = true) :
    r.value? key = some (.str s) := by
  by_cases hkey : key ∈ Field.urls
  · rw [value?_of_text? hkey hs, if_pos hblank]
  · exact value?_of_get? hkey (get?_of_text? hs)

/-- The endpoint of the API that a record has in the end is the one that is written, with its
    final slash. -/
theorem exists_api_of_withDefaults (hs : r.withDefaults.text? "api-url" = some s)
    (hvalid : Endpoint.isValid s = true) : ∃ raw api, r.text? "api-url" = some raw ∧
      s = withSlash raw ∧ Endpoint.parse (withSlash raw) = .ok api := by
  obtain ⟨api, hparse⟩ := Endpoint.exists_of_isValid hvalid
  have hvalue := value?_of_text?_withDefaults hs
  rcases url_cases_of_value? (by decide) hvalue with ⟨-, hblank⟩ | ⟨raw, hraw, -, rfl⟩ | ⟨hnone, -⟩
  · rw [Endpoint.not_blank_of_parse hparse] at hblank
    cases hblank
  · exact ⟨raw, api, hraw, rfl, hparse⟩
  · rw [value?_eq_default hnone] at hvalue
    cases hvalue

/-- A missing endpoint stays missing exactly if it cannot be derived from that of the API, which
    may have got its slash. -/
theorem derive?_eq_none_iff {label path : String} {api : Url}
    (hd : (key, Default.derived label path) ∈ Field.defaults) (hs : r.text? "api-url" = some s)
    (hparse : Endpoint.parse (withSlash s) = .ok api) (hnone : Fields.get? key r = none) :
    Endpoint.derive? api label path = none ↔ r.value? key = none := by
  obtain ⟨api', hapi', hscheme, hauthority⟩ := Endpoint.parse_of_withSlash hparse
  rw [value?_eq_default hnone, Field.lookup_of_mem_defaults hd, Option.bind_some, Default.value?,
    api?_of_parse hs hapi', Option.bind_some, Endpoint.derive?_congr hscheme hauthority,
    Option.map_eq_none_iff]

/-! ### The single checks -/

/-- The issues are the breaks with such causes, and no field has two of them. -/
structure Reports (r : Record) (index : Nat) (p : Issue.Cause → Prop) (is : List Issue) : Prop where
  mem_iff : ∀ x, x ∈ is ↔ ∃ f ∈ Field.all, ∃ c, p c ∧ r.Breaks f c ∧ x = r.issue index f.name c
  once : (is.map (·.field)).Nodup

/-- What keeps the keys of a list without repetitions has none itself. -/
theorem nodup_filterMap {α β γ : Type} {g : α → Option β} {k : α → γ} {k' : β → γ} {l : List α}
    (h : ∀ a ∈ l, ∀ b, g a = some b → k' b = k a) (hl : (l.map k).Nodup) :
    ((l.filterMap g).map k').Nodup := by
  induction l with
  | nil => exact List.nodup_nil
  | cons a l ih =>
    obtain ⟨ha, hl⟩ := List.nodup_cons.1 hl
    obtain ⟨hhead, htail⟩ := List.forall_mem_cons.1 h
    have ih := ih htail hl
    cases hg : g a with
    | none => rwa [List.filterMap_cons_none hg]
    | some b =>
      rw [List.filterMap_cons_some hg, List.map_cons, List.nodup_cons]
      refine ⟨fun hmem => ha ?_, ih⟩
      obtain ⟨b', hb', hk⟩ := List.mem_map.1 hmem
      obtain ⟨a', ha', hga'⟩ := List.mem_filterMap.1 hb'
      rw [← hhead b hg, ← hk, htail a' ha' b' hga']
      exact List.mem_map.2 ⟨a', ha', rfl⟩

theorem reports_kindIssues (r : Record) (index : Nat) :
    r.Reports index (fun c => c matches .wrongKind _ _) (r.kindIssues index) where
  mem_iff x := by
    rw [kindIssues, List.mem_filterMap]
    constructor
    · rintro ⟨f, hf, hx⟩
      split at hx
      · rename_i v hv
        split at hx
        · cases hx
        · rename_i hkind
          cases hx
          exact ⟨f, hf, _, rfl, .wrongKind hv (by simpa using hkind), rfl⟩
      · cases hx
    · rintro ⟨f, hf, c, hc, hbreaks, rfl⟩
      cases hbreaks with
      | wrongKind hv hkind => exact ⟨f, hf, by simp [hv, hkind]⟩
      | _ => cases hc
  once := by
    refine nodup_filterMap (k := fun f => some f.name) ?_ (by decide)
    intro f _ x hx
    split at hx
    · split at hx
      · cases hx
      · cases hx
        rfl
    · cases hx

theorem reports_requiredIssues (r : Record) (index : Nat) :
    r.Reports index (fun c => c matches .missing | .blank) (r.withDefaults.requiredIssues index) where
  mem_iff x := by
    rw [requiredIssues, List.mem_filterMap]
    simp only [get?_withDefaults, issue_withDefaults]
    constructor
    · rintro ⟨f, hf, hx⟩
      obtain ⟨hf, hrequired⟩ := List.mem_filter.1 hf
      split at hx
      · rename_i hnone
        cases hx
        exact ⟨f, hf, _, rfl, .missing hrequired (get?_of_value?_eq_none hnone), rfl⟩
      · rename_i s hs
        split at hx
        · rename_i hblank
          cases hx
          have hs := text?_of_blank (Field.text_of_required hf hrequired).2 hs hblank
          exact ⟨f, hf, _, rfl, .blank hrequired hs hblank, rfl⟩
        · cases hx
      · cases hx
    · rintro ⟨f, hf, c, hc, hbreaks, rfl⟩
      cases hbreaks with
      | missing hrequired hnone =>
        refine ⟨f, List.mem_filter.2 ⟨hf, hrequired⟩, ?_⟩
        simp [value?_eq_default hnone, (Field.text_of_required hf hrequired).2]
      | blank hrequired hs hblank =>
        refine ⟨f, List.mem_filter.2 ⟨hf, hrequired⟩, ?_⟩
        simp [value?_of_blank hs hblank, hblank]
      | _ => cases hc
  once := by
    refine nodup_filterMap (k := fun f => some f.name) ?_ (by decide)
    intro f _ x hx
    split at hx
    · cases hx
      rfl
    · split at hx
      · cases hx
        rfl
      · cases hx
    · cases hx

theorem reports_typeIssues (r : Record) (index : Nat) :
    r.Reports index (fun c => c matches .unknownKind _) (r.withDefaults.typeIssues index) where
  mem_iff x := by
    have htype : ∀ s, r.withDefaults.text? "type" = some s → (Kind.ofName? s).isSome = false →
        r.text? "type" = some s := by
      intro s hs hkind
      have hvalue := value?_of_text?_withDefaults hs
      cases hget : Fields.get? "type" r with
      | some v =>
        rw [value?_of_get? (by decide) hget] at hvalue
        cases hvalue
        exact text?_of_get? hget
      | none =>
        rw [value?_eq_default hget] at hvalue
        cases hvalue
        cases hkind
    rw [typeIssues]
    constructor
    · intro hx
      split at hx
      · rename_i s hs
        split at hx
        · cases hx
        · rename_i hkind
          have hnot : ∀ k : Kind, s ≠ k.name := by
            rintro k rfl
            simp at hkind
          rw [List.mem_singleton.1 hx, issue_withDefaults]
          exact ⟨⟨"type", .text, false⟩, by decide, _, rfl,
            .unknownKind rfl (htype s hs (by simpa using hkind)) hnot, rfl⟩
      · cases hx
    · rintro ⟨f, hf, c, hc, hbreaks, rfl⟩
      cases hbreaks with
      | unknownKind hname hs hkind =>
        rw [hname] at hs ⊢
        have hnot := isSome_ofName?_eq_false hkind
        rw [text?_withDefaults, value?_of_get? (by decide) (get?_of_text? hs)]
        simp [Json.str?, hnot, issue_withDefaults]
      | _ => cases hc
  once := by
    rw [typeIssues]
    split
    · split <;> simp
    · simp

theorem reports_urlIssues (r : Record) (index : Nat) :
    r.Reports index (fun c => c matches .badUrl _ _) (r.withDefaults.urlIssues index) where
  mem_iff x := by
    rw [urlIssues, List.mem_filterMap]
    simp only [issue_withDefaults]
    constructor
    · rintro ⟨key, hkey, hx⟩
      split at hx
      · rename_i s hs
        split at hx
        · cases hx
        · rename_i hblank
          split at hx
          · cases hx
          · rename_i why hparse
            cases hx
            obtain ⟨f, hf, rfl, -⟩ := Field.exists_field_of_url hkey
            rcases url_cases_of_value? hkey (value?_of_text?_withDefaults hs) with
              ⟨-, hblank'⟩ | ⟨raw, hraw, hblank', rfl⟩ | ⟨-, hvalid⟩
            · exact absurd hblank' hblank
            · exact ⟨f, hf, _, rfl, .badUrl hkey hraw hblank' hparse, rfl⟩
            · rw [Endpoint.isValid, hparse] at hvalid
              cases hvalid
      · cases hx
    · rintro ⟨f, hf, c, hc, hbreaks, rfl⟩
      cases hbreaks with
      | badUrl hurl hs hblank hparse =>
        refine ⟨f.name, hurl, ?_⟩
        rw [text?_withDefaults, value?_of_url hurl hs hblank]
        simp [Json.str?, isBlankText_withSlash, hparse]
      | _ => cases hc
  once := by
    refine nodup_filterMap (k := fun key => some key) ?_ (by decide)
    intro key _ x hx
    split at hx
    · split at hx
      · cases hx
      · split at hx
        · cases hx
        · cases hx
          rfl
    · cases hx

theorem reports_derivedIssues (r : Record) (index : Nat) :
    r.Reports index (fun c => c matches .underivable _) (r.withDefaults.derivedIssues index) where
  mem_iff x := by
    rw [derivedIssues]
    simp only [issue_withDefaults]
    constructor
    · intro hx
      split at hx
      · rename_i s hs
        split at hx
        · rename_i hvalid
          obtain ⟨⟨key, d⟩, hd, hx⟩ := List.mem_filterMap.1 hx
          cases d with
          | derived label path =>
            dsimp only at hx
            split at hx
            · cases hx
            · rename_i hthere
              cases hx
              obtain ⟨raw, api, hraw, rfl, hparse⟩ := exists_api_of_withDefaults hs hvalid
              obtain ⟨f, hf, rfl, -⟩ := Field.exists_field_of_default hd
              have hnone : r.value? f.name = none := by
                rw [← get?_withDefaults]
                simpa [Fields.has] using hthere
              exact ⟨f, hf, _, rfl, .underivable hd (get?_of_value?_eq_none hnone) hraw hparse
                ((derive?_eq_none_iff hd hraw hparse (get?_of_value?_eq_none hnone)).2 hnone), rfl⟩
          | text _ => cases hx
          | flag _ => cases hx
        · cases hx
      · cases hx
    · rintro ⟨f, hf, c, hc, hbreaks, rfl⟩
      cases hbreaks with
      | @underivable label path s api hd hnone hs hparse hderive =>
        have hvalid : Endpoint.isValid (withSlash s) = true := by
          rw [Endpoint.isValid, hparse]
          rfl
        obtain ⟨api', hapi', -⟩ := Endpoint.parse_of_withSlash hparse
        have hthere : Fields.has f.name r.withDefaults = false := by
          rw [Fields.has, get?_withDefaults, (derive?_eq_none_iff hd hs hparse hnone).1 hderive]
          rfl
        rw [text?_withDefaults, value?_of_url (by decide) hs (Endpoint.not_blank_of_parse hapi')]
        simp only [Option.bind_some, Json.str?, hvalid, if_true]
        exact List.mem_filterMap.2 ⟨_, hd, by simp [hthere]⟩
      | _ => cases hc
  once := by
    rw [derivedIssues]
    split
    · split
      · refine nodup_filterMap (k := fun p => some p.1) ?_ (by decide)
        rintro ⟨key, d⟩ _ x hx
        cases d with
        | derived label path =>
          dsimp only at hx
          split at hx
          · cases hx
          · cases hx
            rfl
        | text _ => cases hx
        | flag _ => cases hx
      · exact List.nodup_nil
    · exact List.nodup_nil

/-! ### All checks -/

theorem Reports.append {p q : Issue.Cause → Prop} {is is' : List Issue} (h : r.Reports index p is)
    (h' : r.Reports index q is') (hpq : ∀ c, p c → ¬ q c) :
    r.Reports index (fun c => p c ∨ q c) (is ++ is') where
  mem_iff x := by
    rw [List.mem_append, h.mem_iff, h'.mem_iff]
    constructor
    · rintro (⟨f, hf, c, hc, hx⟩ | ⟨f, hf, c, hc, hx⟩)
      · exact ⟨f, hf, c, .inl hc, hx⟩
      · exact ⟨f, hf, c, .inr hc, hx⟩
    · rintro ⟨f, hf, c, hc | hc, hx⟩
      · exact .inl ⟨f, hf, c, hc, hx⟩
      · exact .inr ⟨f, hf, c, hc, hx⟩
  once := by
    rw [List.map_append, List.nodup_append]
    refine ⟨h.once, h'.once, ?_⟩
    intro name hname name' hname' heq
    obtain ⟨x, hx, rfl⟩ := List.mem_map.1 hname
    obtain ⟨x', hx', rfl⟩ := List.mem_map.1 hname'
    obtain ⟨f, hf, c, hc, hbreaks, rfl⟩ := (h.mem_iff x).1 hx
    obtain ⟨f', hf', c', hc', hbreaks', rfl⟩ := (h'.mem_iff x').1 hx'
    obtain rfl := Field.eq_of_name_eq hf hf' (Option.some.inj heq)
    obtain rfl := hbreaks.unique hf hbreaks'
    exact hpq c hc hc'

/-- **All that is reported of a record on its own are the rules it breaks**, one issue each. -/
theorem reports_issues (r : Record) (index : Nat) :
    r.Reports index (fun _ => True) (r.issues index) := by
  have hvalues := (((reports_requiredIssues r index).append (reports_typeIssues r index)
    fun c hp hq => by cases c <;> simp at hp hq).append (reports_urlIssues r index)
    fun c hp hq => by cases c <;> simp at hp hq).append (reports_derivedIssues r index)
    fun c hp hq => by cases c <;> simp at hp hq
  have h := (reports_kindIssues r index).append hvalues
    fun c hp hq => by cases c <;> simp at hp hq
  refine ⟨fun x => (h.mem_iff x).trans ?_, h.once⟩
  refine exists_congr fun f => and_congr_right fun _ => exists_congr fun c => ?_
  refine and_congr_left fun ⟨hbreaks, _⟩ => ⟨fun _ => trivial, fun _ => ?_⟩
  cases hbreaks <;> simp

end Record

end Fleet.Config
