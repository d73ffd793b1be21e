/-
  Fleet/Proofs/Url/Reparse.lean
  =============================
  **A URL that has been written is read back.**

  Reading takes a text apart at its separators: the scheme at its colon, the authority at the
  first slash, the user information at the last at-sign, the port at the first colon behind that.
  In a tidy URL none of the parts contains a separator that ends it, so each cut falls where the
  parts were joined (`Authority.Named.parse_render`, `Plain.read_chars`).

  The host is read once more then.  A host text in lower case, without percent signs and
  brackets, is taken as it is: if it names a host at all, it is its own domain name, and this is
  what the host is read from (`Host.ofText?_of_parse`).
-/
import Mathlib.Data.List.TakeWhile
import Fleet.Endpoint
import Fleet.Proofs.Url.Parts

namespace Fleet.Url

open Fleet.Text

/-! ### Texts that are left as they are -/

theorem dropWhile_eq_self {p : Char → Bool} {cs : List Char} (h : ∀ c ∈ cs, p c = false) :
    cs.dropWhile p = cs := by
  cases cs with
  | nil => rfl
  | cons c cs => simp [h c List.mem_cons_self]

/-- Text in front stays, if nothing of it would be cut off. -/
theorem strip_append {p : Char → Bool} {front : List Char} (h : ∀ c ∈ front, p c = false)
    (hsome : front ≠ []) (rest : List Char) : ∃ kept, strip p (front ++ rest) = front ++ kept := by
  have hback : ∀ c ∈ front.reverse, p c = false := fun c hc => h c (List.mem_reverse.1 hc)
  have hdrop : (front ++ rest).dropWhile p = front ++ rest := by
    rw [List.dropWhile_append, dropWhile_eq_self h, if_neg]
    simpa using hsome
  refine ⟨(rest.reverse.dropWhile p).reverse, ?_⟩
  rw [strip, stripEnd, hdrop, List.reverse_append, List.dropWhile_append, dropWhile_eq_self hback]
  split
  · rename_i hnone
    rw [List.isEmpty_iff.1 hnone, List.reverse_nil, List.reverse_reverse, List.append_nil]
  · rw [List.reverse_append, List.reverse_reverse]

theorem strip_eq_self {p : Char → Bool} {cs : List Char} (h : ∀ c ∈ cs, p c = false) :
    strip p cs = cs := by
  rw [strip, stripEnd, dropWhile_eq_self h, dropWhile_eq_self fun c hc => h c (List.mem_reverse.1 hc),
    List.reverse_reverse]

/-- Text without controls has no tabs and line ends to be left out. -/
theorem filter_breaks_eq_self {cs : List Char} (h : ∀ c ∈ cs, 32 < c.toNat) :
    cs.filter (fun c => !(c == '\t' || c == '\n' || c == '\r')) = cs := by
  refine List.filter_eq_self.2 fun c hc => ?_
  have := h c hc
  by_contra hbad
  simp only [Bool.not_eq_true', Bool.not_eq_false, Bool.or_eq_true, beq_iff_eq] at hbad
  rcases hbad with (rfl | rfl) | rfl <;> revert this <;> decide

theorem clean_eq_self {cs : List Char} (h : ∀ c ∈ cs, 32 < c.toNat) : clean cs = cs := by
  rw [clean, strip_eq_self fun c hc => by simpa using h c hc]
  exact filter_breaks_eq_self h

theorem clean_append {front : List Char} (h : ∀ c ∈ front, 32 < c.toNat) (hsome : front ≠ [])
    (rest : List Char) : ∃ kept, clean (front ++ rest) = front ++ kept := by
  have hfront : ∀ c ∈ front, decide (c.toNat ≤ 32) = false := fun c hc => by simpa using h c hc
  obtain ⟨kept, hkept⟩ := strip_append hfront hsome rest
  rw [clean, hkept, List.filter_append, filter_breaks_eq_self h]
  exact ⟨_, rfl⟩

/-! ### Hosts -/

theorem decodeText_decode {cs : List Char} (h : ∀ c ∈ cs, c ≠ '%') :
    Host.decodeText (Percent.decode cs) = some cs := by
  have hdecode : Percent.decode cs = cs.flatMap String.utf8EncodeChar := by
    induction cs with
    | nil => rfl
    | cons c cs ih =>
      have hc := h c List.mem_cons_self
      have ih := ih fun d hd => h d (List.mem_cons_of_mem _ hd)
      rw [List.flatMap_cons, ← ih, Percent.decode]
      exact fun _ _ _ he _ => hc he
  have hbytes : (⟨(cs.flatMap String.utf8EncodeChar).toArray⟩ : ByteArray) = cs.utf8Encode := by
    exact ByteArray.ext (by rw [List.utf8Encode, List.data_toByteArray])
  rw [Host.decodeText, hdecode, hbytes, String.fromUTF8?, dif_pos ⟨cs, rfl⟩]
  exact congrArg some String.toList_ofList

theorem decodeText_of_lower {cs : List Char} (h : ∀ c ∈ cs, isLower c = true) :
    Host.decodeText (Percent.decode cs) = some cs := by
  refine decodeText_decode fun c hc => ?_
  have hc := h c hc
  simp only [isLower, Bool.and_eq_true, bne_iff_ne] at hc
  exact hc.2

/-- Labels in ASCII are given as they are, if none of them is too long. -/
theorem mapM_conceal {ls : List (List Char)} (h : ∀ l ∈ ls, l.all Domain.isAscii = true) :
    ls.mapM Domain.conceal = if ls.all Domain.isBrief then some ls else none := by
  induction ls with
  | nil => rfl
  | cons l ls ih =>
    have hl := h l List.mem_cons_self
    have ih := ih fun q hq => h q (List.mem_cons_of_mem _ hq)
    rw [List.mapM_cons, Domain.conceal, if_pos hl, ih, List.all_cons]
    cases hbrief : Domain.isBrief l with
    | false => rfl
    | true => cases hall : ls.all Domain.isBrief <;> rfl

/-- Lower-case text is the name it would stand for, if none of its labels is too long. -/
theorem candidate_of_lower {cs : List Char} (h : ∀ c ∈ cs, isLower c = true) :
    Domain.candidate cs = if (Domain.labels cs).all Domain.isBrief then some cs else none := by
  have hascii : ∀ c ∈ cs, Domain.isAscii c = true := by
    intro c hc
    have := h c hc
    simp only [isLower, Bool.and_eq_true] at this
    exact this.1.1
  have hlower : cs.map Char.toLower = cs := by
    refine (List.map_congr_left fun c hc => ?_).trans (List.map_id cs)
    have hc := h c hc
    have hlt : c.toNat < 128 := of_decide_eq_true (hascii c ‹_›)
    have := all_of_ascii (p := fun c => !isLower c || c.toLower == c) (by decide) hlt
    simpa [hc] using this
  have hjoin : ['.'].intercalate (Domain.labels cs) = cs := by
    rw [Domain.labels, ← List.splitOn_eq_splitOnP, List.intercalate_splitOn]
  have hlabels : ∀ l ∈ Domain.labels cs, l.all Domain.isAscii = true := fun l hl =>
    List.all_eq_true.2 fun c hc => hascii c (hjoin ▸ mem_intercalate_of_mem hl hc)
  rw [Domain.candidate, if_pos (List.all_eq_true.2 hascii), hlower]
  simp only [Option.bind_eq_bind, Option.bind_some, Option.pure_def, mapM_conceal hlabels]
  split
  · rw [Option.bind_some, hjoin]
  · rfl

/-- Lower-case text is its own domain name, if it has one. -/
theorem eq_of_ofText? {cs name : List Char} (h : ∀ c ∈ cs, isLower c = true)
    (hn : Domain.ofText? cs = some name) : name = cs := by
  obtain ⟨hcandidate, -⟩ := Option.filter_eq_some_iff.1 hn
  rw [candidate_of_lower h] at hcandidate
  split at hcandidate
  · exact (Option.some.inj hcandidate).symm
  · cases hcandidate

/-- A lower-case text outside of brackets that names a host is its own domain name, and it is what
    the host is read from. -/
theorem Host.ofText?_of_parse {cs : List Char} {h : Host} (hl : ∀ c ∈ cs, isLower c = true)
    (hb : cs.head? ≠ some '[') (hp : Host.parse cs = .ok h) :
    Domain.ofText? cs = some cs ∧ Host.ofDomain cs = .ok h := by
  rw [Host.parse, if_neg hb, decodeText_of_lower hl, Option.bind_some] at hp
  split at hp
  · cases hp
  cases hn : Domain.ofText? cs with
  | none =>
    rw [hn] at hp
    cases hp
  | some name =>
    rw [hn] at hp
    obtain rfl := eq_of_ofText? hl hn
    exact ⟨rfl, hp⟩

theorem Host.isDomain_of_parse {cs : List Char} {h : Host} (hl : ∀ c ∈ cs, isLower c = true)
    (hb : cs.head? ≠ some '[') (hp : Host.parse cs = .ok h) :
    Domain.isDomain cs = true ∧ Host.ofDomain cs = .ok h := by
  obtain ⟨hn, hof⟩ := Host.ofText?_of_parse hl hb hp
  exact ⟨(Option.filter_eq_some_iff.1 hn).2, hof⟩

/-- None of its labels is too long. -/
theorem Host.isBrief_of_parse {cs : List Char} {h : Host} (hl : ∀ c ∈ cs, isLower c = true)
    (hb : cs.head? ≠ some '[') (hp : Host.parse cs = .ok h) :
    (Domain.labels cs).all Domain.isBrief = true := by
  obtain ⟨hcandidate, -⟩ := Option.filter_eq_some_iff.1 (Host.ofText?_of_parse hl hb hp).1
  rw [candidate_of_lower hl] at hcandidate
  by_contra hlong
  rw [if_neg hlong] at hcandidate
  cases hcandidate

theorem Host.ne_nil_of_parse {cs : List Char} {h : Host} (hp : Host.parse cs = .ok h) :
    cs ≠ [] := by
  rintro rfl
  have := (Host.isDomain_of_parse (by simp) (by simp) hp).2
  cases this

/-! ### Authorities -/

theorem splitUserinfo_append {info rest : List Char} (h : ∀ c ∈ rest, c ≠ '@') :
    splitUserinfo (info ++ '@' :: rest) = (some info, rest) := by
  have hrest : ((info ++ '@' :: rest).reverse.takeWhile (· ≠ '@')).reverse = rest := by
    rw [List.reverse_append, List.reverse_cons, List.append_assoc, List.takeWhile_append_of_pos]
    · simp
    · intro c hc
      simpa using h c (List.mem_reverse.1 hc)
  have hlength : ¬ rest.length = (info ++ '@' :: rest).length := by
    simp
    omega
  have hcut : (info ++ '@' :: rest).length - rest.length - 1 = info.length := by
    simp
    omega
  simp only [splitUserinfo, hrest, if_neg hlength, hcut, List.take_left]

theorem splitUserinfo_eq_none {cs : List Char} (h : ∀ c ∈ cs, c ≠ '@') :
    splitUserinfo cs = (none, cs) := by
  have hall : (cs.reverse.takeWhile (· ≠ '@')).reverse = cs := by
    rw [List.takeWhile_eq_self_iff.2, List.reverse_reverse]
    intro c hc
    simpa using h c (List.mem_reverse.1 hc)
  simp only [splitUserinfo, hall, if_true]

/-- The port begins at the first colon behind a text without colons and brackets. -/
theorem splitPort_append {host rest : List Char}
    (h : ∀ c ∈ host, c ≠ ':' ∧ c ≠ '[' ∧ c ≠ ']') (hrest : rest = [] ∨ rest.head? = some ':') :
    splitPort false (host ++ rest) = (host, rest) := by
  induction host with
  | nil =>
    cases rest with
    | nil => rfl
    | cons c rest =>
      obtain rfl : c = ':' := by simpa using hrest
      simp [splitPort]
  | cons c host ih =>
    obtain ⟨hcolon, hopen, hclose⟩ := h c List.mem_cons_self
    have ih := ih fun d hd => h d (List.mem_cons_of_mem _ hd)
    simp [splitPort, hcolon, hopen, hclose, ih]

theorem readPort_toDigits {p : Nat} (h : p ≤ 65535) :
    readPort (Nat.toDigits 10 p) = .ok (some p) := by
  have hdigit : ∀ c ∈ Nat.toDigits 10 p, c.isDigit = true := fun c hc =>
    Nat.isDigit_of_mem_toDigits (by decide) (by decide) hc
  have hslash : (Nat.toDigits 10 p).takeWhile (· ≠ '\\') = Nat.toDigits 10 p := by
    refine List.takeWhile_eq_self_iff.2 fun c hc => ?_
    have := hdigit c hc
    by_contra hbad
    simp only [decide_eq_true_eq, not_not] at hbad
    rw [hbad] at this
    revert this
    decide
  have hall : (Nat.toDigits 10 p).takeWhile Char.isDigit = Nat.toDigits 10 p :=
    List.takeWhile_eq_self_iff.2 hdigit
  have hvalue : (Nat.toDigits 10 p).foldl (fun n c => 10 * n + (c.toNat - 48)) 0 = p :=
    Nat.ofDigitChars_ten_toDigits
  have hsome : (Nat.toDigits 10 p).isEmpty = false :=
    List.isEmpty_eq_false_iff.2 Nat.toDigits_ne_nil
  have hsmall : ¬ 65535 < p := by omega
  simp only [readPort, hslash, hall, hvalue, hsome]
  simp [hsmall]

def portText : Option Nat → List Char
  | none => []
  | some p => ':' :: Nat.toDigits 10 p

theorem Authority.render_eq (a : Authority) :
    a.render = userinfo a.username a.password ++ (a.host.render ++ portText a.port) := by
  obtain ⟨username, password, host, port⟩ := a
  cases port <;> simp [Authority.render, portText]

theorem readPort_portText {port : Option Nat} (h : ∀ p, port = some p → p ≤ 65535) :
    readPort ((portText port).drop 1) = .ok port := by
  cases port with
  | none => rfl
  | some p => exact readPort_toDigits (h p rfl)

/-- Apart from the colon in front, the text of a port is plain. -/
theorem eq_or_isPlain_of_mem_portText {port : Option Nat} {c : Char} (h : c ∈ portText port) :
    c = ':' ∨ isPlain c = true := by
  cases port with
  | none => cases h
  | some p =>
    rcases List.mem_cons.1 h with h | h
    · exact .inl h
    · exact .inr (isPlain_of_isDigit (Nat.isDigit_of_mem_toDigits (by decide) (by decide) h))

theorem credentials_append {username password : List Char}
    (hu : ∀ c ∈ username, Percent.inUserinfo c = false)
    (hp : ∀ c ∈ password, Percent.inUserinfo c = false) :
    credentials (username ++ if password.isEmpty then [] else ':' :: password) =
      (username, password) := by
  have hcolon : ∀ c ∈ username, decide (c ≠ ':') = true := fun c hc =>
    decide_eq_true (ne_of_isPlain (isPlain_of_inUserinfo (hu c hc)) (by decide))
  rw [credentials, List.takeWhile_append_of_pos hcolon, List.dropWhile_append_of_pos hcolon]
  cases password with
  | nil =>
    have := encode_eq_self hu
    simpa using ⟨this, rfl⟩
  | cons c password => simp [encode_eq_self hu, encode_eq_self hp]

theorem splitUserinfo_userinfo {username password rest : List Char}
    (hu : ∀ c ∈ username, Percent.inUserinfo c = false)
    (hp : ∀ c ∈ password, Percent.inUserinfo c = false) (hrest : ∀ c ∈ rest, c ≠ '@') :
    ∃ info, splitUserinfo (Authority.userinfo username password ++ rest) = (info, rest) ∧
      credentials (info.getD []) = (username, password) := by
  by_cases hnone : (username.isEmpty && password.isEmpty) = true
  · refine ⟨none, ?_, ?_⟩
    · rw [Authority.userinfo, if_pos hnone]
      exact splitUserinfo_eq_none hrest
    · simp only [Bool.and_eq_true, List.isEmpty_iff] at hnone
      rw [hnone.1, hnone.2]
      rfl
  · refine ⟨some _, ?_, credentials_append hu hp⟩
    rw [Authority.userinfo, if_neg hnone, List.append_assoc, List.singleton_append]
    exact splitUserinfo_append hrest

/-- An authority at a plain name, which may or may not name a host. -/
structure Authority.Named (a : Authority) (name : List Char) : Prop where
  tidy : a.Tidy
  host : a.host = .domain name
  chars : ∀ c ∈ name, isPlain c = true
  isSome : name ≠ []

namespace Authority.Named

variable {a : Authority} {name : List Char}

/-- **An authority at a domain name is read back**, as far as its host is. -/
theorem parse_render (h : a.Named name) :
    Authority.parse a.render = (Host.parse name).map fun host => { a with host } := by
  have hat : ∀ c ∈ name ++ portText a.port, c ≠ '@' := by
    intro c hc
    rcases List.mem_append.1 hc with hc | hc
    · exact ne_of_isPlain (h.chars c hc) (by decide)
    · rcases eq_or_isPlain_of_mem_portText hc with rfl | hc
      · decide
      · exact ne_of_isPlain hc (by decide)
  have hsplit : splitPort false (name ++ portText a.port) = (name, portText a.port) := by
    refine splitPort_append (fun c hc => ⟨?_, ?_, ?_⟩) ?_
    · exact ne_of_isPlain (h.chars c hc) (by decide)
    · exact ne_of_isPlain (h.chars c hc) (by decide)
    · exact ne_of_isPlain (h.chars c hc) (by decide)
    · cases a.port with
      | none => exact .inl rfl
      | some p => exact .inr rfl
  have hsome : name.isEmpty = false := List.isEmpty_eq_false_iff.2 h.isSome
  obtain ⟨info, hinfo, hcredentials⟩ :=
    splitUserinfo_userinfo h.tidy.username h.tidy.password hat
  rw [Authority.render_eq, h.host, Host.render]
  simp only [Authority.parse, hinfo, hcredentials, hsplit, hsome, readPort_portText h.tidy.port]
  cases Host.parse name <;> rfl

theorem chars_render (h : a.Named name) {c : Char} (hc : c ∈ a.render) :
    isPlain c = true ∨ c = ':' ∨ c = '@' := by
  rw [Authority.render_eq, h.host, List.mem_append, List.mem_append] at hc
  rcases hc with hc | hc | hc
  · unfold Authority.userinfo at hc
    split at hc
    · cases hc
    · rcases List.mem_append.1 hc with hc | hc
      · rcases List.mem_append.1 hc with hc | hc
        · exact .inl (isPlain_of_inUserinfo (h.tidy.username c hc))
        · split at hc
          · cases hc
          · rcases List.mem_cons.1 hc with hc | hc
            · exact .inr (.inl hc)
            · exact .inl (isPlain_of_inUserinfo (h.tidy.password c hc))
      · exact .inr (.inr (List.mem_singleton.1 hc))
  · exact .inl (h.chars c hc)
  · rcases eq_or_isPlain_of_mem_portText hc with hc | hc
    · exact .inr (.inl hc)
    · exact .inl hc

theorem visible (h : a.Named name) {c : Char} (hc : c ∈ a.render) :
    (32 < c.toNat ∧ c.toNat < 127) ∧ endsAuthority true c = false := by
  rcases h.chars_render hc with hp | rfl | rfl
  · have hlt : c.toNat < 128 := by
      simp only [isPlain, Bool.and_eq_true, decide_eq_true_eq] at hp
      omega
    have := all_of_ascii (p := fun c => !isPlain c ||
      (32 < c.toNat && c.toNat < 127 && !endsAuthority true c)) (by decide) hlt
    simpa [hp] using this
  · decide
  · decide

theorem render_ne_nil (h : a.Named name) : a.render ≠ [] := by
  intro hnil
  rw [Authority.render_eq, h.host] at hnil
  simp only [List.append_eq_nil_iff, Host.render] at hnil
  exact h.isSome hnil.2.1

/-- An authority ends where the path begins. -/
theorem takeWhile_append (h : a.Named name) (rest : List Char) :
    (a.render ++ '/' :: rest).takeWhile (fun c => !endsAuthority true c) = a.render ∧
      (a.render ++ '/' :: rest).dropWhile (fun c => !endsAuthority true c) = '/' :: rest := by
  have hends : ∀ c ∈ a.render, (!endsAuthority true c) = true := by
    intro c hc
    rw [(h.visible hc).2]
    rfl
  constructor
  · rw [List.takeWhile_append_of_pos hends]
    simp [endsAuthority]
  · rw [List.dropWhile_append_of_pos hends]
    simp [endsAuthority]

/-- It begins behind the slashes. -/
theorem dropWhile_isSlash (h : a.Named name) (rest : List Char) :
    ('/' :: '/' :: (a.render ++ rest)).dropWhile Path.isSlash = a.render ++ rest := by
  have hslash : ∀ {cs}, List.dropWhile Path.isSlash ('/' :: '/' :: cs) = cs.dropWhile Path.isSlash :=
    fun {_} => rfl
  rw [hslash]
  cases hr : a.render with
  | nil => exact absurd hr h.render_ne_nil
  | cons c r =>
    have hc := (h.visible (c := c) (by rw [hr]; exact List.mem_cons_self)).2
    have hslash : Path.isSlash c = false := by
      simp only [endsAuthority, Bool.true_and, Bool.or_eq_false_iff] at hc
      simp only [Path.isSlash, hc.1.1.1, hc.2, Bool.or_self]
    simp [hslash]

end Authority.Named

/-! ### Whole URLs -/

/-- A path that stays as it is when it is read, and is taken for nothing else. -/
structure IsPath (path : List Char) : Prop where
  parse : Path.parse path = path
  head : path.head? = some '/'
  chars : ∀ c ∈ path, 32 < c.toNat ∧ c.toNat < 127 ∧ c ≠ '?' ∧ c ≠ '#'

/-- What is known of a tidy URL without query and fragment that has a domain name for its host. -/
structure Plain (u : Url) (name : List Char) : Prop where
  tidy : u.Tidy
  host : u.authority.host = .domain name
  chars : ∀ c ∈ name, isPlain c = true
  reads : Host.parse name = .ok (.domain name)
  path : IsPath u.path
  query : u.query = none
  fragment : u.fragment = none

section Plain

variable {u : Url} {name : List Char}

theorem Plain.named (h : u.Plain name) : u.authority.Named name where
  tidy := h.tidy.authority
  host := h.host
  chars := h.chars
  isSome := Host.ne_nil_of_parse h.reads

theorem bare_eq (hq : u.query = none) (hf : u.fragment = none) :
    { u with query := none, fragment := none } = u := by
  obtain ⟨scheme, authority, path, query, fragment⟩ := u
  cases hq
  cases hf
  rfl

theorem Plain.chars_eq (h : u.Plain name) :
    u.chars = u.scheme.name ++ ':' :: '/' :: '/' :: (u.authority.render ++ u.path) := by
  simp [Url.chars, h.query, h.fragment]

theorem Scheme.visible (scheme : Scheme) {c : Char} (hc : c ∈ scheme.name) :
    32 < c.toNat ∧ c.toNat < 127 := by
  have hall : (scheme.name.all fun c => 32 < c.toNat && c.toNat < 127) = true := by
    cases scheme <;> decide
  simpa using List.all_eq_true.1 hall c hc

theorem Plain.visible (h : u.Plain name) {c : Char} (hc : c ∈ u.chars) :
    32 < c.toNat ∧ c.toNat < 127 := by
  rw [h.chars_eq] at hc
  simp only [List.mem_append, List.mem_cons] at hc
  rcases hc with hc | rfl | rfl | rfl | hc | hc
  · exact u.scheme.visible hc
  · decide
  · decide
  · decide
  · exact (h.named.visible hc).1
  · exact ⟨(h.path.chars c hc).1, (h.path.chars c hc).2.1⟩

/-- What is read behind the scheme of a text that begins with this scheme and this authority. -/
theorem read_of_clean {cs rest : List Char} (h : u.authority.Named name)
    (hclean : clean cs = u.scheme.name ++ ':' :: '/' :: '/' :: (u.authority.render ++ rest)) :
    read cs = (web u.scheme (u.authority.render ++ rest)).map .web := by
  have hscheme : scheme? (clean cs) =
      some (u.scheme.name, '/' :: '/' :: (u.authority.render ++ rest)) := by
    rw [hclean]
    cases u.scheme <;> rfl
  rw [read, hscheme]
  simp only [h.dropWhile_isSlash]
  cases u.scheme <;> simp [Scheme.name]

/-- A text that begins with a scheme and an authority is read behind the scheme, whatever is cut off
    at its end. -/
theorem exists_read_of_front (h : u.authority.Named name) (rest : List Char) :
    ∃ kept, read (u.scheme.name ++ ':' :: '/' :: '/' :: (u.authority.render ++ '/' :: rest)) =
      (web u.scheme (u.authority.render ++ '/' :: kept)).map .web := by
  let front := u.scheme.name ++ ':' :: '/' :: '/' :: (u.authority.render ++ ['/'])
  have hfront : ∀ rest, u.scheme.name ++ ':' :: '/' :: '/' :: (u.authority.render ++ '/' :: rest) =
      front ++ rest := by
    simp [front]
  have hvisible : ∀ c ∈ front, 32 < c.toNat := by
    intro c hc
    simp only [front, List.mem_append, List.mem_cons, List.not_mem_nil, or_false] at hc
    rcases hc with hc | rfl | rfl | rfl | hc | rfl
    · exact (u.scheme.visible hc).1
    · decide
    · decide
    · decide
    · exact (h.visible hc).1.1
    · decide
  obtain ⟨kept, hkept⟩ := clean_append hvisible (by simp [front]) rest
  rw [hfront]
  exact ⟨kept, read_of_clean h (hkept.trans (hfront kept).symm)⟩

/-- **The host of a URL that is read back from its own text** has no label that is too long. -/
theorem isBrief_of_read_chars (h : read u.chars = .ok (.web u))
    (hhost : u.authority.host = .domain name) :
    (Domain.labels name).all Domain.isBrief = true := by
  obtain ⟨text, htext⟩ := exists_host_of_read h
  obtain ⟨hdomain, hsome, -⟩ := Host.isDomain_of_parse_domain (hhost ▸ htext)
  have hchars : ∀ c ∈ name, isPlain c = true ∧ isLower c = true := fun c hc =>
    plain_of_isDomain hdomain hc
  have hnamed : u.authority.Named name :=
    ⟨(tidy_of_read h).authority, hhost, fun c hc => (hchars c hc).1, hsome⟩
  have hsplit : ∃ rest, u.chars =
      u.scheme.name ++ ':' :: '/' :: '/' :: (u.authority.render ++ '/' :: rest) := by
    obtain ⟨-, cs, -, -, hweb⟩ := exists_web_of_read h
    obtain ⟨-, -, -, -, hhead⟩ := exists_authority_of_web hweb
    obtain ⟨path, hpath⟩ := List.head?_eq_some_iff.1 hhead
    simp only [Url.chars, hpath, List.append_assoc, List.cons_append, List.nil_append]
    exact ⟨_, rfl⟩
  obtain ⟨rest, hrest⟩ := hsplit
  obtain ⟨kept, hkept⟩ := exists_read_of_front hnamed rest
  rw [hrest, hkept] at h
  cases hagain : web u.scheme (u.authority.render ++ '/' :: kept) with
  | error why =>
    rw [hagain] at h
    cases h
  | ok u' =>
    -- the authority has been read once more, and its host with it
    obtain ⟨a, ha, -⟩ := exists_authority_of_web hagain
    rw [(hnamed.takeWhile_append kept).1, hnamed.parse_render] at ha
    cases hparse : Host.parse name with
    | error why =>
      rw [hparse] at ha
      cases ha
    | ok host =>
      refine Host.isBrief_of_parse (fun c hc => (hchars c hc).2) ?_ hparse
      intro hbracket
      exact absurd (hchars '[' (List.mem_of_mem_head? hbracket)).1 (by decide)

/-- **A plain URL is read back.** -/
theorem Plain.read_chars (h : u.Plain name) : read u.chars = .ok (.web u) := by
  obtain ⟨rest, hpath⟩ := List.head?_eq_some_iff.1 h.path.head
  obtain ⟨htake, hdrop⟩ := h.named.takeWhile_append rest
  rw [← hpath] at htake hdrop
  have htail : tail u.path = (u.path, none, none) := by
    have hall : ∀ c ∈ u.path, (decide (c ≠ '?') && decide (c ≠ '#')) = true := fun c hc => by
      simpa using (h.path.chars c hc).2.2
    rw [tail, List.takeWhile_eq_self_iff.2 hall, List.dropWhile_eq_nil_iff.2 hall, h.path.parse]
    rfl
  have hport : u.authority.port.filter (· ≠ u.scheme.port) = u.authority.port := by
    have := h.tidy.port
    cases hp : u.authority.port with
    | none => rfl
    | some p =>
      rw [hp] at this
      exact Option.filter_some_pos (by simpa using this)
  have hparse : Authority.parse u.authority.render = .ok u.authority := by
    rw [h.named.parse_render, h.reads, ← h.host]
    rfl
  have hweb : web u.scheme (u.authority.render ++ u.path) = .ok u := by
    simp only [web, htake, hdrop, htail, hparse]
    change Except.ok { u with
      authority := { u.authority with port := u.authority.port.filter (· ≠ u.scheme.port) },
      query := none, fragment := none } = Except.ok u
    rw [hport]
    exact congrArg Except.ok (bare_eq h.query h.fragment)
  rw [read_of_clean h.named ((clean_eq_self fun c hc => (h.visible hc).1).trans h.chars_eq), hweb]
  rfl

/-- A plain URL that ends in a slash stays as it is when blanks are cut off and a slash is
    put at its end, and the endpoint it names is the URL. -/
theorem Plain.endpoint (h : u.Plain name) (hslash : u.path.getLast? = some '/') :
    withSlash u.render = u.render ∧ Endpoint.parse u.render = .ok u := by
  have hblank : ∀ c ∈ u.chars, isBlank c = false := by
    intro c hc
    have := h.visible hc
    simp [isBlank]
    omega
  have hstrip : strip isBlank u.render.toList = u.chars := by
    rw [render, String.toList_ofList, strip_eq_self hblank]
  have hlast : u.chars.getLast? = some '/' := by
    have hsplit : u.chars = (u.scheme.name ++ ':' :: '/' :: '/' :: u.authority.render) ++ u.path := by
      rw [h.chars_eq]
      simp
    rw [hsplit, List.getLast?_append, hslash]
    rfl
  refine ⟨?_, ?_⟩
  · rw [withSlash, hstrip, slashed, if_pos hlast]
    rfl
  · rw [Endpoint.parse, hstrip, h.read_chars]

end Plain

end Fleet.Url
