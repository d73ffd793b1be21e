/-
  Fleet/Proofs/Url/Parts.lean
  ===========================
  **What the parts of a URL that has been read are made of.**

  User name and password are held encoded, so none of their characters is one that would be
  encoded (`Percent.inUserinfo_encode`).  A host is a domain name in ASCII, or an address, whose
  written form has few characters to choose from (`Host.isLower_of_parse`).  A port fits into 16
  bits and is not the one of the scheme.

  These are the facts that `Tidy` collects.  Every URL that is read has them (`tidy_of_read`).
-/
import Fleet.Url.Parser
import Fleet.Proofs.Identifiers

namespace Fleet.Url

open Fleet.Text

/-! ### Characters -/

/-- What is checked for all ASCII values holds for all ASCII characters. -/
theorem all_of_ascii {p : Char → Bool} (h : ∀ n < 128, p (Char.ofNat n) = true) {c : Char}
    (hc : c.toNat < 128) : p c = true := by
  have := h c.toNat hc
  rwa [Char.ofNat_toNat] at this

/-- A printable character that neither ends a part of an authority nor begins one. -/
def isPlain (c : Char) : Bool :=
  32 < c.toNat && c.toNat < 127 && !"/?#\\@:[]".toList.contains c

theorem ne_of_isPlain {c x : Char} (h : isPlain c = true) (hx : isPlain x = false) : c ≠ x := by
  rintro rfl
  rw [h] at hx
  cases hx

theorem isPlain_of_inUserinfo {c : Char} (h : Percent.inUserinfo c = false) : isPlain c = true := by
  have hascii : c.toNat < 128 := by
    simp only [Percent.inUserinfo, Percent.inPath, Percent.inFragment, Percent.inControl,
      Bool.or_eq_false_iff, decide_eq_false_iff_not] at h
    omega
  have := all_of_ascii (p := fun c => Percent.inUserinfo c || isPlain c) (by decide) hascii
  simpa [h] using this

theorem isPlain_of_isDigit {c : Char} (h : c.isDigit = true) : isPlain c = true := by
  have hascii : c.toNat < 128 := by
    simp only [Char.isDigit, Bool.and_eq_true, decide_eq_true_eq] at h
    have := UInt32.le_iff_toNat_le.1 h.2
    change c.toNat ≤ 57 at this
    omega
  have := all_of_ascii (p := fun c => !c.isDigit || isPlain c) (by decide) hascii
  simpa [h] using this

/-! ### Encoded text -/

theorem inUserinfo_upperDigit : ∀ d < 16, Percent.inUserinfo (Hex.upperDigit d) = false := by
  decide

theorem inUserinfo_encode {cs : List Char} {c : Char}
    (h : c ∈ Percent.encode Percent.inUserinfo cs) : Percent.inUserinfo c = false := by
  obtain ⟨d, -, hc⟩ := List.mem_flatMap.1 h
  split at hc
  · obtain ⟨b, -, hc⟩ := List.mem_flatMap.1 hc
    have hb := b.toNat_lt
    simp only [Percent.encodeByte, List.mem_cons, List.not_mem_nil, or_false] at hc
    rcases hc with rfl | rfl | rfl
    · decide
    · exact inUserinfo_upperDigit _ (by omega)
    · exact inUserinfo_upperDigit _ (by omega)
  · rename_i hd
    rw [List.mem_singleton.1 hc]
    simpa using hd

theorem encode_eq_self {p : Char → Bool} {cs : List Char} (h : ∀ c ∈ cs, p c = false) :
    Percent.encode p cs = cs := by
  induction cs with
  | nil => rfl
  | cons c cs ih =>
    have hc := h c List.mem_cons_self
    have ih := ih fun d hd => h d (List.mem_cons_of_mem _ hd)
    simp only [Percent.encode, List.flatMap_cons, hc, Bool.false_eq_true, if_false] at ih ⊢
    rw [ih, List.singleton_append]

/-! ### Hosts -/

def isLower (c : Char) : Bool := Domain.isAscii c && !c.isUpper && c != '%'

theorem plain_of_isDomain {name : List Char} (h : Domain.isDomain name = true) {c : Char}
    (hc : c ∈ name) : isPlain c = true ∧ isLower c = true := by
  simp only [Domain.isDomain, Bool.and_eq_true, List.all_eq_true] at h
  obtain ⟨⟨hascii, hupper⟩, hforbidden⟩ := h.1 c hc
  have hlt : c.toNat < 128 := of_decide_eq_true hascii
  have := all_of_ascii
    (p := fun c => c.isUpper || Domain.isForbidden c || (isPlain c && isLower c)) (by decide) hlt
  simp only [Bool.not_eq_true'] at hupper hforbidden
  simpa [hupper, hforbidden] using this

theorem mem_intercalate {x c : Char} {gs : List (List Char)} (h : c ∈ [x].intercalate gs) :
    c = x ∨ ∃ g ∈ gs, c ∈ g := by
  induction gs with
  | nil => cases h
  | cons g gs ih =>
    cases gs with
    | nil => exact .inr ⟨g, List.mem_cons_self, by simpa using h⟩
    | cons g' gs =>
      rw [List.intercalate_cons_cons] at h
      rcases List.mem_append.1 h with h | h
      · rcases List.mem_append.1 h with h | h
        · exact .inr ⟨g, List.mem_cons_self, h⟩
        · exact .inl (List.mem_singleton.1 h)
      · exact (ih h).imp_right fun ⟨g'', hg, hc⟩ => ⟨g'', List.mem_cons_of_mem _ hg, hc⟩

theorem mem_intercalate_of_mem {x c : Char} {g : List Char} {gs : List (List Char)} (hg : g ∈ gs)
    (hc : c ∈ g) : c ∈ [x].intercalate gs := by
  induction gs with
  | nil => cases hg
  | cons g' gs ih =>
    cases gs with
    | nil =>
      rw [List.intercalate_singleton, ← List.mem_singleton.1 hg]
      exact hc
    | cons g'' gs =>
      rw [List.intercalate_cons_cons]
      rcases List.mem_cons.1 hg with rfl | hg
      · exact List.mem_append_left _ (List.mem_append_left _ hc)
      · exact List.mem_append_right _ (ih hg)

theorem exists_digit_of_mem_toDigits {b : Nat} (hb : 1 < b) {n : Nat} {c : Char}
    (h : c ∈ Nat.toDigits b n) : ∃ d < b, c = Nat.digitChar d := by
  induction n using Nat.strongRecOn with
  | ind n ih =>
    rw [Nat.toDigits_eq_if hb] at h
    split at h
    · exact ⟨n, ‹n < b›, List.mem_singleton.1 h⟩
    · rcases List.mem_append.1 h with h | h
      · exact ih (n / b) (Nat.div_lt_self (by omega) hb) h
      · exact ⟨n % b, Nat.mod_lt n (by omega), List.mem_singleton.1 h⟩

theorem isLower_of_mem_toDigits {b : Nat} (hb : 1 < b) (hb' : b ≤ 16) {n : Nat} {c : Char}
    (h : c ∈ Nat.toDigits b n) : isLower c = true := by
  have hdigit : ∀ d < 16, isLower (Nat.digitChar d) = true := by decide
  obtain ⟨d, hd, rfl⟩ := exists_digit_of_mem_toDigits hb h
  exact hdigit d (by omega)

theorem ne_dot_of_mem_toDigits {b : Nat} (hb : 1 < b) (hb' : b ≤ 16) {n : Nat} {c : Char}
    (h : c ∈ Nat.toDigits b n) : c ≠ '.' := by
  have hdigit : ∀ d < 16, Nat.digitChar d ≠ '.' := by decide
  obtain ⟨d, hd, rfl⟩ := exists_digit_of_mem_toDigits hb h
  exact hdigit d (by omega)

theorem isLower_ipv4 {a : Nat} {c : Char} (h : c ∈ Ipv4.render a) : isLower c = true := by
  rcases mem_intercalate h with rfl | ⟨g, hg, hc⟩
  · decide
  · obtain ⟨n, -, rfl⟩ := List.mem_map.1 hg
    exact isLower_of_mem_toDigits (by decide) (by decide) hc

/-- An address of version 6 is written with colons and hexadecimal digits. -/
theorem eq_or_mem_toDigits_of_mem_ipv6 {gs : List Nat} {c : Char} (h : c ∈ Ipv6.render gs) :
    c = ':' ∨ ∃ n, c ∈ Nat.toDigits 16 n := by
  have hjoin : ∀ {ps : List Nat}, c ∈ Ipv6.join ps → c = ':' ∨ ∃ n, c ∈ Nat.toDigits 16 n := by
    intro ps h
    refine (mem_intercalate h).imp_right ?_
    rintro ⟨g, hg, hc⟩
    obtain ⟨n, -, rfl⟩ := List.mem_map.1 hg
    exact ⟨n, hc⟩
  simp only [Ipv6.render] at h
  split at h
  · exact hjoin h
  · simp only [List.mem_append, List.mem_cons, List.not_mem_nil, or_false] at h
    rcases h with (h | h | h) | h
    · exact hjoin h
    · exact .inl h
    · exact .inl h
    · exact hjoin h

theorem isLower_ipv6 {gs : List Nat} {c : Char} (h : c ∈ Ipv6.render gs) : isLower c = true := by
  obtain rfl | ⟨n, hc⟩ := eq_or_mem_toDigits_of_mem_ipv6 h
  · decide
  · exact isLower_of_mem_toDigits (by decide) (by decide) hc

theorem Host.ofDomain_eq_domain_iff {cs name : List Char} :
    Host.ofDomain cs = .ok (.domain name) ↔ cs = name ∧ name ≠ [] ∧ Ipv4.isMeant name = false := by
  unfold Host.ofDomain
  cases cs with
  | nil =>
    simp only [List.isEmpty_nil, if_true, reduceCtorEq, false_iff]
    rintro ⟨rfl, hne, -⟩
    exact hne rfl
  | cons c cs =>
    simp only [List.isEmpty_cons, Bool.false_eq_true, if_false]
    split
    · rename_i hmeant
      constructor
      · intro h
        split at h <;> cases h
      · rintro ⟨rfl, -, hnot⟩
        rw [hmeant] at hnot
        cases hnot
    · rename_i hmeant
      constructor
      · intro h
        cases h
        exact ⟨rfl, List.cons_ne_nil c cs, Bool.eq_false_iff.2 hmeant⟩
      · rintro ⟨rfl, -, -⟩
        rfl

/-- A domain name that has been read is one, and it stands for no address. -/
theorem Host.isDomain_of_parse_domain {cs name : List Char}
    (hp : Host.parse cs = .ok (.domain name)) :
    Domain.isDomain name = true ∧ name ≠ [] ∧ Ipv4.isMeant name = false := by
  unfold Host.parse at hp
  split at hp
  · unfold Host.bracketed at hp
    split at hp <;> [split at hp; skip] <;> cases hp
  split at hp
  · cases hp
  · split at hp
    · rename_i name' hname
      obtain ⟨bytes, -, htext⟩ := Option.bind_eq_some_iff.1 hname
      obtain ⟨rfl, hsome, hmeant⟩ := Host.ofDomain_eq_domain_iff.1 hp
      exact ⟨(Option.filter_eq_some_iff.1 htext).2, hsome, hmeant⟩
    · cases hp

/-- **A host that has been read is written in lower-case ASCII.** -/
theorem Host.isLower_of_parse {cs : List Char} {h : Host} (hp : Host.parse cs = .ok h) {c : Char}
    (hc : c ∈ h.render) : isLower c = true := by
  cases h with
  | ipv4 a => exact isLower_ipv4 hc
  | ipv6 gs =>
    simp only [Host.render, List.mem_cons, List.mem_append, List.not_mem_nil, or_false] at hc
    rcases hc with rfl | hc | rfl
    · decide
    · exact isLower_ipv6 hc
    · decide
  | domain name => exact (plain_of_isDomain (Host.isDomain_of_parse_domain hp).1 hc).2

/-! ### Authorities -/

/-- What is known of the parts of an authority that has been read. -/
structure Authority.Tidy (a : Authority) : Prop where
  username : ∀ c ∈ a.username, Percent.inUserinfo c = false
  password : ∀ c ∈ a.password, Percent.inUserinfo c = false
  host : ∀ c ∈ a.host.render, isLower c = true
  port : ∀ p, a.port = some p → p ≤ 65535

theorem readPort_le {cs : List Char} {p : Nat} (h : readPort cs = .ok (some p)) : p ≤ 65535 := by
  unfold readPort at h
  simp only at h
  split at h
  · cases h
  · rename_i hbig
    simp only [Except.ok.injEq] at h
    split at h
    · cases h
    · cases h
      simp only [Bool.or_eq_true, decide_eq_true_eq, not_or] at hbig
      omega

/-- The parts of an authority that has been read. -/
theorem Authority.exists_parts_of_parse {cs : List Char} {a : Authority}
    (h : Authority.parse cs = .ok a) :
    ∃ info host port, credentials info = (a.username, a.password) ∧
      Host.parse host = .ok a.host ∧ readPort port = .ok a.port := by
  simp only [Authority.parse] at h
  split at h
  · cases h
  · cases hh : Host.parse (splitPort false (splitUserinfo cs).2).1 with
    | error e =>
      rw [hh] at h
      cases h
    | ok host =>
      cases hp : readPort ((splitPort false (splitUserinfo cs).2).2.drop 1) with
      | error e =>
        rw [hh, hp] at h
        cases h
      | ok port =>
        rw [hh, hp] at h
        cases h
        exact ⟨_, _, _, rfl, hh, hp⟩

theorem Authority.tidy_of_parse {cs : List Char} {a : Authority} (h : Authority.parse cs = .ok a) :
    a.Tidy := by
  obtain ⟨info, host, port, hinfo, hhost, hport⟩ := exists_parts_of_parse h
  obtain ⟨husername, hpassword⟩ := Prod.mk.inj hinfo
  exact {
    username := fun c hc => inUserinfo_encode (husername.symm ▸ hc)
    password := fun c hc => inUserinfo_encode (hpassword.symm ▸ hc)
    host := fun c hc => Host.isLower_of_parse hhost hc
    port := fun p hp => readPort_le (hp ▸ hport) }

/-- **What is known of a URL that has been read.** -/
structure Tidy (u : Url) : Prop where
  authority : u.authority.Tidy
  /-- The port of the scheme is left out. -/
  port : u.authority.port ≠ some u.scheme.port

theorem Path.head?_parse (cs : List Char) : (Path.parse cs).head? = some '/' := rfl

/-- What has been read behind a scheme: the authority, and a path that begins with a slash. -/
theorem exists_authority_of_web {scheme : Scheme} {cs : List Char} {u : Url}
    (h : web scheme cs = .ok u) :
    ∃ a, Authority.parse (cs.takeWhile fun c => !endsAuthority true c) = .ok a ∧
      u.scheme = scheme ∧ u.authority = { a with port := a.port.filter (· ≠ scheme.port) } ∧
      u.path.head? = some '/' := by
  unfold web at h
  cases ha : Authority.parse (cs.takeWhile fun c => !endsAuthority true c) with
  | error e =>
    rw [ha] at h
    cases h
  | ok a =>
    rw [ha] at h
    cases h
    exact ⟨a, rfl, rfl, rfl, Path.head?_parse _⟩

/-- A web URL is read behind its scheme. -/
theorem exists_web_of_read {cs : List Char} {u : Url} (h : read cs = .ok (.web u)) :
    ∃ name rest, scheme? (clean cs) = some (name, rest) ∧ name = u.scheme.name ∧
      web u.scheme (rest.dropWhile Path.isSlash) = .ok u := by
  have hweb : ∀ {scheme : Scheme} {rest : List Char},
      (web scheme rest).map Reading.web = .ok (.web u) →
        scheme = u.scheme ∧ web u.scheme rest = .ok u := by
    intro scheme rest h
    cases hw : web scheme rest with
    | error e =>
      rw [hw] at h
      cases h
    | ok v =>
      rw [hw] at h
      cases h
      obtain ⟨a, -, hscheme, -⟩ := exists_authority_of_web hw
      subst hscheme
      exact ⟨rfl, hw⟩
  unfold read at h
  split at h
  · cases h
  · rename_i name rest hscheme
    refine ⟨name, rest, hscheme, ?_⟩
    split at h
    · rename_i hname
      obtain ⟨hsame, hw⟩ := hweb h
      exact ⟨hsame ▸ hname, hw⟩
    · split at h
      · rename_i hname
        obtain ⟨hsame, hw⟩ := hweb h
        exact ⟨hsame ▸ hname, hw⟩
      · cases hc : checkForeign name rest <;> rw [hc] at h <;> cases h

theorem tidy_of_read {cs : List Char} {u : Url} (h : read cs = .ok (.web u)) : u.Tidy := by
  obtain ⟨-, rest, -, -, hweb⟩ := exists_web_of_read h
  obtain ⟨a, ha, -, hauthority, -⟩ := exists_authority_of_web hweb
  have htidy := Authority.tidy_of_parse ha
  constructor
  · rw [hauthority]
    refine ⟨htidy.username, htidy.password, htidy.host, ?_⟩
    intro p hp
    exact htidy.port p (Option.filter_eq_some_iff.1 hp).1
  · rw [hauthority]
    intro hp
    have hfits := (Option.filter_eq_some_iff.1 hp).2
    simp at hfits

/-- The host of a URL that has been read is one that some text names. -/
theorem exists_host_of_read {cs : List Char} {u : Url} (h : read cs = .ok (.web u)) :
    ∃ text, Host.parse text = .ok u.authority.host := by
  obtain ⟨-, rest, -, -, hweb⟩ := exists_web_of_read h
  obtain ⟨a, ha, -, hauthority, -⟩ := exists_authority_of_web hweb
  obtain ⟨-, host, -, -, hhost, -⟩ := Authority.exists_parts_of_parse ha
  rw [hauthority]
  exact ⟨host, hhost⟩

end Fleet.Url
