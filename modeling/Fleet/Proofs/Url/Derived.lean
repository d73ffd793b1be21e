/-
  Fleet/Proofs/Url/Derived.lean
  =============================
  **Derived endpoints are endpoints.**

  To derive an endpoint, the first label of a host is replaced, and what comes out is read as a
  host again.  If it is one at all it is a domain name: the label that has been put in front is
  no number, so it is not taken for an address of version 4, and the brackets of one of
  version 6 stand in the wrong place now.  The URL at this domain name is plain, so its text is
  an endpoint, and has its final slash (`Endpoint.derive?_plain`).
-/
import Fleet.Config.Field
import Fleet.Proofs.Url.Reparse

namespace Fleet.Endpoint

open Fleet.Text Fleet.Url

/-! ### Rules -/

/-- A label and a path from which endpoints can be derived. -/
structure IsRule (label path : String) : Prop where
  isSome : label.toList ≠ []
  chars : ∀ c ∈ label.toList, isPlain c = true ∧ isLower c = true ∧ c ≠ '.'
  noNumber : Ipv4.number? label.toList = none
  isPath : IsPath path.toList
  slash : path.toList.getLast? = some '/'

theorem IsRule.of_checks {label path : String} (hsome : label.toList ≠ [])
    (hlabel : (label.toList.all fun c => isPlain c && isLower c && c != '.') = true)
    (hnumber : Ipv4.number? label.toList = none) (hparse : Path.parse path.toList = path.toList)
    (hpath : (path.toList.all fun c => 32 < c.toNat && c.toNat < 127 && c != '?' && c != '#') = true)
    (hhead : path.toList.head? = some '/') (hlast : path.toList.getLast? = some '/') :
    IsRule label path where
  isSome := hsome
  chars c hc := by simpa [and_assoc] using List.all_eq_true.1 hlabel c hc
  noNumber := hnumber
  isPath := ⟨hparse, hhead, fun c hc => by simpa [and_assoc] using List.all_eq_true.1 hpath c hc⟩
  slash := hlast

theorem isRule_of_mem_defaults {key label path : String}
    (h : (key, Config.Default.derived label path) ∈ Config.Field.defaults) : IsRule label path := by
  have hconsole : IsRule "console" "/console/" :=
    .of_checks (by decide) (by decide) (by decide) (by decide) (by decide) (by decide) (by decide)
  have hmetrics : IsRule "metrics" "/" :=
    .of_checks (by decide) (by decide) (by decide) (by decide) (by decide) (by decide) (by decide)
  simp only [Config.Field.defaults, List.mem_cons, Prod.mk.injEq, Config.Default.derived.injEq,
    reduceCtorEq, and_false, List.not_mem_nil, or_false] at h
  rcases h with ⟨-, rfl, rfl⟩ | ⟨-, rfl, rfl⟩ | ⟨-, rfl, rfl⟩
  · exact hconsole
  · exact hmetrics
  · exact hconsole

section Rule

variable {label path : String}

/-! ### Hosts behind a label -/

theorem IsRule.head_ne (h : IsRule label path) (rest : List Char) :
    (label.toList ++ rest).head? ≠ some '[' := by
  obtain ⟨c, cs, hcs⟩ := List.exists_cons_of_ne_nil h.isSome
  have hc := (h.chars c (by rw [hcs]; exact List.mem_cons_self)).1
  rw [hcs]
  simpa using ne_of_isPlain hc (x := '[') (by decide)

/-- A name behind a label that is no number is not an address of version 4. -/
theorem IsRule.ipv4_eq_none (h : IsRule label path) (rest : List Char) :
    Ipv4.parse? (label.toList ++ '.' :: rest) = none := by
  have hsplit : (label.toList ++ '.' :: rest).splitOnP (· == '.') =
      label.toList :: rest.splitOnP (· == '.') :=
    List.splitOnP_append_cons_of_forall_mem
      (fun c hc => by simpa using (h.chars c hc).2.2) '.' (by decide) rest
  have hparts : ∃ ps, Ipv4.parts (label.toList ++ '.' :: rest) = label.toList :: ps := by
    rw [Ipv4.parts, hsplit]
    split
    · exact ⟨_, List.dropLast_cons_of_ne_nil (List.splitOnP_ne_nil _ _)⟩
    · exact ⟨_, rfl⟩
  obtain ⟨ps, hparts⟩ := hparts
  rw [Ipv4.parse?, hparts, List.mapM_cons, h.noNumber]
  rfl

theorem IsRule.isLower_behind (h : IsRule label path) {rest : List Char}
    (hl : ∀ c ∈ rest, isLower c = true) : ∀ c ∈ label.toList ++ '.' :: rest, isLower c = true := by
  intro c hc
  rcases List.mem_append.1 hc with hc | hc
  · exact (h.chars c hc).2.1
  · rcases List.mem_cons.1 hc with rfl | hc
    · decide
    · exact hl c hc

/-- **What is read behind a label is a domain name.** -/
theorem IsRule.domain_of_parse (h : IsRule label path) {rest : List Char} {host : Host}
    (hl : ∀ c ∈ rest, isLower c = true)
    (hp : Host.parse (label.toList ++ '.' :: rest) = .ok host) :
    host = .domain (label.toList ++ '.' :: rest) ∧
      ∀ c ∈ label.toList ++ '.' :: rest, isPlain c = true := by
  obtain ⟨hdomain, hof⟩ := Host.isDomain_of_parse (h.isLower_behind hl) (h.head_ne _) hp
  refine ⟨?_, fun c hc => (plain_of_isDomain hdomain hc).1⟩
  unfold Host.ofDomain at hof
  split at hof
  · cases hof
  · rw [h.ipv4_eq_none] at hof
    split at hof
    · cases hof
    · exact (Except.ok.inj hof).symm

/-! ### Derived endpoints -/

/-- What is derived from an endpoint depends on its scheme, user, host and port only. -/
theorem derive?_congr {api api' : Url} (hscheme : api.scheme = api'.scheme)
    (hauthority : api.authority = api'.authority) (label path : String) :
    derive? api label path = derive? api' label path := by
  unfold derive? Url.withHost?
  rw [hauthority]
  dsimp only
  split_ifs
  any_goals rfl
  all_goals
    split
    · simp only [Option.map_some, Url.withPath, hscheme]
    · rfl

/-- The URL beside `api` at this domain name and with this path. -/
def beside (api : Url) (name path : List Char) : Url where
  scheme := api.scheme
  authority := { api.authority with host := .domain name }
  path := path
  query := none
  fragment := none

/-- What stands behind the label in the name of a sibling: it comes from the host, and is the same
    for all labels. -/
def behind (host : List Char) : List Char :=
  match host.dropWhile (· ≠ '.') with
  | [] => host
  | _ :: rest => rest

theorem sibling_eq (label host : List Char) : sibling label host = label ++ '.' :: behind host := rfl

theorem behind_subset (host : List Char) : behind host ⊆ host := by
  intro c hc
  unfold behind at hc
  split at hc
  · exact hc
  · rename_i hrest
    exact (List.dropWhile_sublist _).subset (hrest ▸ List.mem_cons_of_mem _ hc)

/-- The part of it that is read: no colon is. -/
def tailOf (api : Url) : List Char := (behind api.authority.host.render).takeWhile (· ≠ ':')

theorem isLower_tailOf {api : Url} (hapi : api.Tidy) : ∀ c ∈ tailOf api, isLower c = true := by
  intro c hc
  exact hapi.authority.host c (behind_subset _ ((List.takeWhile_sublist _).subset hc))

/-- An endpoint is derived by reading its host, which is all that can fail. -/
theorem IsRule.derive?_eq (h : IsRule label path) (api : Url) :
    derive? api label path =
      (Host.parse (label.toList ++ '.' :: tailOf api)).toOption.map fun host =>
        withSlash ({ api with authority := { api.authority with host } }.withPath path.toList).render := by
  have hlabel : ∀ c ∈ label.toList, decide (c ≠ ':') = true := fun c hc =>
    decide_eq_true (ne_of_isPlain (h.chars c hc).1 (by decide))
  have hcut : (label.toList ++ '.' :: behind api.authority.host.render).takeWhile (· ≠ ':') =
      label.toList ++ '.' :: tailOf api := by
    rw [List.takeWhile_append_of_pos hlabel]
    rfl
  unfold derive? withHost?
  simp only [sibling_eq, h.head_ne, decide_false, Bool.false_and, Bool.false_eq_true, if_false, hcut]
  rw [if_neg (by simp)]
  cases Host.parse (label.toList ++ '.' :: tailOf api) <;> rfl

/-- The URL at a domain name that is read behind a label is plain. -/
theorem plain_beside {api : Url} (hapi : api.Tidy) (hr : IsRule label path) {rest : List Char}
    (hrest : ∀ c ∈ rest, isLower c = true) {host : Host}
    (hhost : Host.parse (label.toList ++ '.' :: rest) = .ok host) :
    host = .domain (label.toList ++ '.' :: rest) ∧
      (beside api (label.toList ++ '.' :: rest) path.toList).Plain
        (label.toList ++ '.' :: rest) := by
  obtain ⟨rfl, hplain⟩ := hr.domain_of_parse hrest hhost
  refine ⟨rfl, ?_⟩
  exact {
    tidy := {
      authority := {
        username := hapi.authority.username
        password := hapi.authority.password
        host := fun c hc => Host.isLower_of_parse hhost hc
        port := hapi.authority.port }
      port := hapi.port }
    host := rfl
    chars := hplain
    reads := hhost
    path := hr.isPath
    query := rfl
    fragment := rfl }

/-- **A derived endpoint is the text of a plain URL** beside that of the API. -/
theorem derive?_plain {api : Url} (hapi : api.Tidy) (hr : IsRule label path) {text : String}
    (h : derive? api label path = some text) :
    (beside api (label.toList ++ '.' :: tailOf api) path.toList).Plain
        (label.toList ++ '.' :: tailOf api) ∧
      text = (beside api (label.toList ++ '.' :: tailOf api) path.toList).render := by
  rw [hr.derive?_eq] at h
  obtain ⟨host, hhost, htext⟩ := Option.map_eq_some_iff.1 h
  cases hparse : Host.parse (label.toList ++ '.' :: tailOf api) with
  | error why =>
    rw [hparse] at hhost
    cases hhost
  | ok host' =>
    rw [hparse] at hhost
    cases hhost
    obtain ⟨rfl, hbeside⟩ := plain_beside hapi hr (isLower_tailOf hapi) hparse
    refine ⟨hbeside, ?_⟩
    have hkept := filter_breaks_eq_self fun c hc => (hr.isPath.chars c hc).1
    rw [← htext, withPath, hkept, hr.isPath.parse]
    exact (hbeside.endpoint hr.slash).1

theorem isValid_of_derive? {api : Url} (hapi : api.Tidy) (hr : IsRule label path) {text : String}
    (h : derive? api label path = some text) :
    withSlash text = text ∧ isValid text = true := by
  obtain ⟨hplain, rfl⟩ := derive?_plain hapi hr h
  obtain ⟨hslash, hparse⟩ := hplain.endpoint hr.slash
  refine ⟨hslash, ?_⟩
  rw [isValid, hparse]
  rfl

theorem read_of_parse {raw : String} {api : Url} (h : parse raw = .ok api) :
    read (strip isBlank raw.toList) = .ok (.web api) := by
  unfold parse at h
  split at h
  · rename_i u hu
    cases h
    exact hu
  · cases h
  · cases h

theorem tidy_of_parse {raw : String} {api : Url} (h : parse raw = .ok api) : api.Tidy :=
  tidy_of_read (read_of_parse h)

theorem isDomain_of_parse {raw : String} {api : Url} (h : parse raw = .ok api) {name : List Char}
    (hhost : api.authority.host = .domain name) :
    Domain.isDomain name = true ∧ name ≠ [] ∧ Ipv4.isMeant name = false := by
  obtain ⟨text, htext⟩ := exists_host_of_read (read_of_parse h)
  exact Host.isDomain_of_parse_domain (hhost ▸ htext)

end Rule

/-! ### Texts that name endpoints -/

theorem exists_of_isValid {s : String} (h : isValid s = true) : ∃ u, parse s = .ok u := by
  unfold isValid at h
  cases hparse : parse s with
  | ok u => exact ⟨u, rfl⟩
  | error why =>
    rw [hparse] at h
    cases h

theorem not_blank_of_parse {s : String} {u : Url} (h : parse s = .ok u) :
    isBlankText s = false := by
  by_contra hblank
  have hall : ∀ c ∈ s.toList, isBlank c = true := by simpa [isBlankText] using hblank
  have hstrip : strip isBlank s.toList = [] := by
    rw [strip, List.dropWhile_eq_nil_iff.2 hall]
    rfl
  rw [parse, hstrip] at h
  cases h

end Fleet.Endpoint
