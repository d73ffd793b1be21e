/-
  Fleet/Proofs/Url/Slash.lean
  ===========================
  **What a final slash does to an endpoint: nothing.**

  The text under which an endpoint is kept ends in a slash (`withSlash`), and putting one there a
  second time changes nothing (`withSlash_withSlash`).

  The slash only lengthens the path, so a text that names an endpoint with it names one without
  it, of the same scheme, user, host and port (`Endpoint.parse_of_withSlash`).  One thing has to be
  excluded.  Controls at the end of a text are cut off, but with a slash behind them they are not
  at its end any more and belong to the part that stands last.  If this part is the authority,
  it cannot be read: neither a host nor a port ends in a control (`Authority.visible_of_parse`).
-/
import Mathlib.Data.List.DropRight
import Fleet.Proofs.Json.Canonical
import Fleet.Proofs.Url.Reparse

namespace Fleet

open Fleet.Text

/-! ### Texts with a final slash -/

namespace Text

variable {p : Char → Bool} {cs : List Char} {c : Char}

theorem stripEnd_concat (h : p c = false) : stripEnd p (cs ++ [c]) = cs ++ [c] :=
  List.rdropWhile_concat_neg p cs c (by simp [h])

theorem dropWhile_concat (h : p c = false) : (cs ++ [c]).dropWhile p = cs.dropWhile p ++ [c] := by
  rw [List.dropWhile_append]
  split
  · rename_i hempty
    rw [List.isEmpty_iff.1 hempty]
    simp [h]
  · rfl

theorem strip_concat (h : p c = false) : strip p (cs ++ [c]) = cs.dropWhile p ++ [c] := by
  rw [strip, dropWhile_concat h, stripEnd_concat h]

/-- What is stripped off the end satisfies the predicate. -/
theorem exists_stripEnd_append (p : Char → Bool) (cs : List Char) :
    ∃ ks, cs = stripEnd p cs ++ ks ∧ ∀ c ∈ ks, p c = true := by
  refine ⟨(cs.reverse.takeWhile p).reverse, ?_, ?_⟩
  · rw [stripEnd, ← List.reverse_append, List.takeWhile_append_dropWhile, List.reverse_reverse]
  · intro c hc
    exact List.mem_takeWhile_imp (List.mem_reverse.1 hc)

theorem dropWhile_strip (p : Char → Bool) (cs : List Char) :
    (strip p cs).dropWhile p = strip p cs := by
  obtain ⟨ks, hsplit, -⟩ := exists_stripEnd_append p (cs.dropWhile p)
  rw [strip]
  cases hs : stripEnd p (cs.dropWhile p) with
  | nil => rfl
  | cons c r =>
    -- the first character that is left is the first one that does not satisfy the predicate
    rw [hs] at hsplit
    have hne : cs.dropWhile p ≠ [] := by
      rw [hsplit]
      exact List.cons_ne_nil _ _
    have hc := List.head_dropWhile_not p hne
    simp only [hsplit, List.cons_append, List.head_cons] at hc
    rw [List.dropWhile_cons_of_neg (by simp [hc])]

end Text

theorem toList_withSlash (s : String) :
    (withSlash s).toList = slashed (strip isBlank s.toList) := by
  rw [withSlash, String.toList_ofList]

theorem slashed_cases (cs : List Char) :
    (cs.getLast? = some '/' ∧ slashed cs = cs) ∨ slashed cs = cs ++ ['/'] := by
  unfold slashed
  split
  · rename_i h
    exact .inl ⟨h, rfl⟩
  · exact .inr rfl

theorem exists_slashed (cs : List Char) : ∃ ds, slashed cs = ds ++ ['/'] := by
  rcases slashed_cases cs with ⟨hlast, h⟩ | h
  · obtain ⟨ds, hds⟩ := List.getLast?_eq_some_iff.1 hlast
    exact ⟨ds, h.trans hds⟩
  · exact ⟨cs, h⟩

theorem slashed_slashed (cs : List Char) : slashed (slashed cs) = slashed cs := by
  obtain ⟨ds, hds⟩ := exists_slashed cs
  rw [slashed, if_pos]
  rw [hds, List.getLast?_concat]

/-- A text with a final slash has no blanks around it. -/
theorem strip_slashed (cs : List Char) :
    strip isBlank (slashed (strip isBlank cs)) = slashed (strip isBlank cs) := by
  have hslash : isBlank '/' = false := by decide
  have hdrop : (slashed (strip isBlank cs)).dropWhile isBlank = slashed (strip isBlank cs) := by
    rcases slashed_cases (strip isBlank cs) with ⟨-, h⟩ | h
    · rw [h, dropWhile_strip]
    · rw [h, dropWhile_concat hslash, dropWhile_strip]
  obtain ⟨ds, hds⟩ := exists_slashed (strip isBlank cs)
  rw [strip, hdrop, hds, stripEnd_concat hslash]

/-- **A final slash is put once.** -/
@[simp] theorem withSlash_withSlash (s : String) : withSlash (withSlash s) = withSlash s := by
  rw [withSlash, toList_withSlash, strip_slashed, slashed_slashed]
  rfl

/-! ### Authorities do not end in a control -/

namespace Url

theorem Host.visible_of_parse {cs : List Char} {c : Char} {host : Host}
    (h : Host.parse (cs ++ [c]) = .ok host) : 32 < c.toNat := by
  unfold Host.parse at h
  split at h
  · unfold Host.bracketed at h
    split at h
    · rename_i hlast
      rw [List.getLast?_concat] at hlast
      cases hlast
      decide
    · cases h
  · split at h
    · cases h
    · rename_i hany
      simp only [List.any_append, List.any_cons, Bool.or_eq_true, decide_eq_true_eq, not_or,
        Nat.not_le] at hany
      exact hany.2.1

theorem visible_of_isDigit {c : Char} (h : c.isDigit = true) : 32 < c.toNat := by
  have hplain := isPlain_of_isDigit h
  simp only [isPlain, Bool.and_eq_true, decide_eq_true_eq] at hplain
  exact hplain.1.1

/-- A port is made of digits, up to a backslash. -/
theorem visible_of_readPort {cs : List Char} {c : Char} {port : Option Nat}
    (hcs : ∀ d ∈ cs ++ [c], d ≠ '\\') (h : readPort (cs ++ [c]) = .ok port) : 32 < c.toNat := by
  have hall : (cs ++ [c]).takeWhile (· ≠ '\\') = cs ++ [c] := by
    apply List.takeWhile_eq_self_iff.2
    intro d hd
    exact decide_eq_true (hcs d hd)
  simp only [readPort, hall] at h
  split at h
  · cases h
  · rename_i hgood
    simp only [Bool.or_eq_true, decide_eq_true_eq, not_or, ne_eq, not_not] at hgood
    have hdigits : (cs ++ [c]).takeWhile Char.isDigit = cs ++ [c] :=
      (List.takeWhile_prefix _).eq_of_length hgood.2
    have hc := List.takeWhile_eq_self_iff.1 hdigits c (by simp)
    exact visible_of_isDigit hc

theorem splitPort_eq_append (inside : Bool) (cs : List Char) :
    (splitPort inside cs).1 ++ (splitPort inside cs).2 = cs ∧
      ((splitPort inside cs).2 = [] ∨ (splitPort inside cs).2.head? = some ':') := by
  induction cs generalizing inside with
  | nil => exact ⟨rfl, .inl rfl⟩
  | cons c cs ih =>
    rw [splitPort]
    split
    · rename_i hcolon
      simp only [Bool.and_eq_true, decide_eq_true_eq] at hcolon
      rw [hcolon.1]
      exact ⟨rfl, .inr rfl⟩
    · obtain ⟨happend, hrest⟩ := ih (if c = '[' then true else if c = ']' then false else inside)
      refine ⟨?_, hrest⟩
      rw [List.cons_append, happend]

/-- The user information does not reach to the end of an authority, unless it ends in an at-sign. -/
theorem exists_splitUserinfo_concat (cs : List Char) {c : Char} (hc : c ≠ '@') :
    ∃ ds, (splitUserinfo (cs ++ [c])).2 = ds ++ [c] ∧ ∀ d ∈ ds, d ∈ cs := by
  have hhost : ((cs ++ [c]).reverse.takeWhile (· ≠ '@')).reverse =
      (cs.reverse.takeWhile (· ≠ '@')).reverse ++ [c] := by
    simp [hc]
  simp only [splitUserinfo, hhost]
  split
  · exact ⟨cs, rfl, fun _ hd => hd⟩
  · refine ⟨_, rfl, ?_⟩
    intro d hd
    exact List.mem_reverse.1 ((List.takeWhile_sublist _).subset (List.mem_reverse.1 hd))

/-- **No authority ends in a control.** -/
theorem Authority.visible_of_parse {cs : List Char} {c : Char} {a : Authority}
    (hcs : ∀ d ∈ cs ++ [c], d ≠ '\\') (h : Authority.parse (cs ++ [c]) = .ok a) :
    32 < c.toNat := by
  by_cases hat : c = '@'
  · rw [hat]
    decide
  obtain ⟨ds, hds, hsub⟩ := exists_splitUserinfo_concat cs hat
  obtain ⟨happend, hport⟩ := splitPort_eq_append false (ds ++ [c])
  simp only [Authority.parse, hds] at h
  split at h
  · cases h
  obtain ⟨host, hhost, h⟩ := Json.of_bind_eq_ok h
  obtain ⟨port, hread, -⟩ := Json.of_bind_eq_ok h
  cases hsplit : (splitPort false (ds ++ [c])).2 with
  | nil =>
    rw [hsplit, List.append_nil] at happend
    rw [happend] at hhost
    exact Host.visible_of_parse hhost
  | cons d ps =>
    -- the last character stands in the port, or it is the colon in front of it
    rw [hsplit] at happend hport hread
    obtain rfl : d = ':' := by simpa using hport
    cases ps using List.reverseRecOn with
    | nil =>
      have hlast := congrArg List.getLast? happend
      simp only [List.getLast?_concat, Option.some.injEq] at hlast
      rw [← hlast]
      decide
    | append_singleton ps d =>
      have hcut : (splitPort false (ds ++ [c])).1 ++ ':' :: ps = ds ∧ d = c := by
        rw [← List.cons_append, ← List.append_assoc] at happend
        exact List.append_singleton_inj.1 happend
      obtain ⟨hfront, rfl⟩ := hcut
      refine visible_of_readPort ?_ hread
      intro e he
      apply hcs e
      rcases List.mem_append.1 he with he | he
      · refine List.mem_append_left _ (hsub e ?_)
        rw [← hfront]
        exact List.mem_append_right _ (List.mem_cons_of_mem _ he)
      · exact List.mem_append_right _ he

/-! ### A slash behind a whole URL -/

theorem of_map_eq_ok {α β ε : Type} {f : α → β} {x : Except ε α} {b : β}
    (h : x.map f = .ok b) : ∃ a, x = .ok a ∧ f a = b := by
  cases x with
  | error e => cases h
  | ok a => exact ⟨a, rfl, Except.ok.inj h⟩

/-- Controls at the end of a text come back into it with a slash behind them. -/
theorem exists_clean_concat (cs : List Char) :
    ∃ ks : List Char, (∀ c ∈ ks, c.toNat ≤ 32) ∧ clean (cs ++ ['/']) = clean cs ++ (ks ++ ['/']) := by
  obtain ⟨ks, hsplit, hks⟩ := exists_stripEnd_append (·.toNat ≤ 32) (cs.dropWhile (·.toNat ≤ 32))
  refine ⟨ks.filter fun c => !(c == '\t' || c == '\n' || c == '\r'), ?_, ?_⟩
  · intro c hc
    exact of_decide_eq_true (hks c (List.mem_of_mem_filter hc))
  · rw [clean, strip_concat (by decide), hsplit, List.filter_append, List.filter_append,
      List.append_assoc]
    rfl

/-- A scheme is read in front of a character that belongs to no scheme and is no colon. -/
theorem scheme?_append {cs rest : List Char} {c : Char}
    (hc : (c.isAlphanum || c == '+' || c == '-' || c == '.') = false) (hcolon : c ≠ ':')
    {name r : List Char} (h : scheme? (cs ++ c :: rest) = some (name, r)) :
    ∃ r', r = r' ++ c :: rest ∧ scheme? cs = some (name, r') := by
  unfold scheme? at h ⊢
  rw [List.dropWhile_append, List.takeWhile_append] at h
  cases hdrop : cs.dropWhile fun c => c.isAlphanum || c == '+' || c == '-' || c == '.' with
  | nil =>
    have hstop : (c :: rest).dropWhile
        (fun c => c.isAlphanum || c == '+' || c == '-' || c == '.') = c :: rest :=
      List.dropWhile_cons_of_neg (Bool.eq_false_iff.1 hc)
    simp only [hdrop, List.isEmpty_nil, if_true, hstop] at h
    split at h
    · rename_i hbad
      exact absurd (List.cons.inj hbad).1 hcolon
    · cases h
  | cons d ds =>
    have hlength : ¬ (cs.takeWhile fun c => c.isAlphanum || c == '+' || c == '-' || c == '.').length
        = cs.length := by
      intro hlength
      have hall := (List.takeWhile_prefix _).eq_of_length hlength
      rw [List.dropWhile_eq_nil_iff.2 (List.takeWhile_eq_self_iff.1 hall)] at hdrop
      cases hdrop
    simp only [hdrop, List.isEmpty_cons, Bool.false_eq_true, if_false, if_neg hlength,
      List.cons_append] at h
    split at h
    · rename_i hd
      obtain ⟨rfl, rfl⟩ := List.cons.inj hd
      split at h
      · rename_i halpha
        cases h
        exact ⟨ds, rfl, by simp only [if_pos halpha]⟩
      · cases h
    · cases h

/-- A final slash, and what comes back in front of it, is no part of the scheme. -/
theorem scheme?_of_controls {cs ks : List Char} (hks : ∀ c ∈ ks, c.toNat ≤ 32)
    {name r : List Char} (h : scheme? (cs ++ (ks ++ ['/'])) = some (name, r)) :
    ∃ r', r = r' ++ (ks ++ ['/']) ∧ scheme? cs = some (name, r') := by
  cases ks with
  | nil => exact scheme?_append (by decide) (by decide) h
  | cons k ks =>
    have hk := hks k List.mem_cons_self
    have hlt : k.toNat < 128 := by omega
    have hall := all_of_ascii (p := fun c => 32 < c.toNat ||
      !(c.isAlphanum || c == '+' || c == '-' || c == '.' || c == ':')) (by decide) hlt
    simp only [Nat.not_lt.2 hk, decide_false, Bool.false_or, Bool.not_eq_true',
      Bool.or_eq_false_iff, beq_eq_false_iff_ne] at hall
    refine scheme?_append ?_ hall.2 h
    simp [hall.1]

/-- The text of the authority behind a scheme and its colon. -/
def authorityText (rest : List Char) : List Char :=
  (rest.dropWhile Path.isSlash).takeWhile fun c => !endsAuthority true c

theorem not_endsAuthority_of_le {c : Char} (h : c.toNat ≤ 32) : (!endsAuthority true c) = true := by
  have hlt : c.toNat < 128 := by omega
  have hall := all_of_ascii (p := fun c => 32 < c.toNat || !endsAuthority true c) (by decide) hlt
  simpa [Nat.not_lt.2 h] using hall

theorem isSlash_eq_false_of_le {c : Char} (h : c.toNat ≤ 32) : Path.isSlash c = false := by
  have hlt : c.toNat < 128 := by omega
  have hall := all_of_ascii (p := fun c => 32 < c.toNat || !Path.isSlash c) (by decide) hlt
  simpa [Nat.not_lt.2 h] using hall

/-- An authority ends at the slash, so it gains at most the controls in front of it. -/
theorem authorityText_append (rest : List Char) {ks : List Char} (hks : ∀ c ∈ ks, c.toNat ≤ 32) :
    authorityText (rest ++ (ks ++ ['/'])) = authorityText rest ∨
      authorityText (rest ++ (ks ++ ['/'])) = authorityText rest ++ ks := by
  have hends : (ks ++ ['/']).takeWhile (fun c => !endsAuthority true c) = ks := by
    rw [List.takeWhile_append_of_pos fun c hc => not_endsAuthority_of_le (hks c hc)]
    simp [endsAuthority]
  unfold authorityText
  rw [List.dropWhile_append]
  split
  · rename_i hempty
    rw [List.isEmpty_iff.1 hempty]
    cases ks with
    | nil => exact .inl rfl
    | cons k ks =>
      have hk := isSlash_eq_false_of_le (hks k List.mem_cons_self)
      rw [List.cons_append, List.dropWhile_cons_of_neg (by simp [hk]), ← List.cons_append, hends]
      exact .inr rfl
  · rw [List.takeWhile_append]
    split
    · rename_i hlength
      rw [hends, (List.takeWhile_prefix _).eq_of_length hlength]
      exact .inr rfl
    · exact .inl rfl

theorem authorityText_eq_of_parse {rest ks : List Char} (hks : ∀ c ∈ ks, c.toNat ≤ 32)
    {a : Authority} (h : Authority.parse (authorityText (rest ++ (ks ++ ['/']))) = .ok a) :
    authorityText (rest ++ (ks ++ ['/'])) = authorityText rest := by
  rcases authorityText_append rest hks with heq | heq
  · exact heq
  · cases ks using List.reverseRecOn with
    | nil => rw [heq, List.append_nil]
    | append_singleton ks k =>
      have hslash : ∀ c ∈ authorityText (rest ++ (ks ++ [k] ++ ['/'])), c ≠ '\\' := by
        rintro c hc rfl
        have := List.mem_takeWhile_imp hc
        revert this
        decide
      rw [heq, ← List.append_assoc] at h hslash
      have hvisible := Authority.visible_of_parse hslash h
      have hsmall := hks k (by simp)
      omega

/-- A web URL is read where its authority is. -/
theorem web_of_parse (scheme : Scheme) {rest : List Char} {a : Authority}
    (h : Authority.parse (authorityText rest) = .ok a) :
    ∃ v, web scheme (rest.dropWhile Path.isSlash) = .ok v ∧ v.scheme = scheme ∧
      v.authority = { a with port := a.port.filter (· ≠ scheme.port) } := by
  have hrun : web scheme (rest.dropWhile Path.isSlash) =
      Except.bind (Authority.parse (authorityText rest)) fun a =>
        let t := tail ((rest.dropWhile Path.isSlash).dropWhile fun c => !endsAuthority true c)
        .ok { scheme, authority := { a with port := a.port.filter (· ≠ scheme.port) },
              path := t.1, query := t.2.1, fragment := t.2.2 } := rfl
  rw [h] at hrun
  exact ⟨_, hrun, rfl, rfl⟩

theorem web_of_append {scheme : Scheme} {rest ks : List Char} (hks : ∀ c ∈ ks, c.toNat ≤ 32)
    {u : Url} (h : web scheme ((rest ++ (ks ++ ['/'])).dropWhile Path.isSlash) = .ok u) :
    ∃ v, web scheme (rest.dropWhile Path.isSlash) = .ok v ∧ v.scheme = u.scheme ∧
      v.authority = u.authority := by
  obtain ⟨a, ha, h⟩ := Json.of_bind_eq_ok h
  have ha' : Authority.parse (authorityText rest) = .ok a := by
    rw [← authorityText_eq_of_parse hks ha]
    exact ha
  obtain ⟨v, hv, hscheme, hauthority⟩ := web_of_parse scheme ha'
  cases h
  exact ⟨v, hv, hscheme, hauthority⟩

/-- **Reading without the final slash**: the URL differs in its path, query and fragment only. -/
theorem read_of_concat {cs : List Char} {u : Url} (h : read (cs ++ ['/']) = .ok (.web u)) :
    ∃ v, read cs = .ok (.web v) ∧ v.scheme = u.scheme ∧ v.authority = u.authority := by
  obtain ⟨ks, hks, hclean⟩ := exists_clean_concat cs
  unfold read at h ⊢
  rw [hclean] at h
  split at h
  · cases h
  · rename_i name long hlong
    obtain ⟨rest, rfl, hscheme⟩ := scheme?_of_controls hks hlong
    rw [hscheme]
    simp only
    split at h
    · rename_i hname
      obtain ⟨w, hw, hu⟩ := of_map_eq_ok h
      cases hu
      obtain ⟨v, hv, hsame⟩ := web_of_append hks hw
      exact ⟨v, by rw [if_pos hname, hv]; rfl, hsame⟩
    · rename_i hname
      split at h
      · rename_i hname'
        obtain ⟨w, hw, hu⟩ := of_map_eq_ok h
        cases hu
        obtain ⟨v, hv, hsame⟩ := web_of_append hks hw
        exact ⟨v, by rw [if_neg hname, if_pos hname', hv]; rfl, hsame⟩
      · obtain ⟨-, -, hu⟩ := of_map_eq_ok h
        cases hu

end Url

/-- **A text that names an endpoint with a final slash names one without it**, of the same scheme,
    user, host and port. -/
theorem Endpoint.parse_of_withSlash {s : String} {u : Url} (h : parse (withSlash s) = .ok u) :
    ∃ v, parse s = .ok v ∧ v.scheme = u.scheme ∧ v.authority = u.authority := by
  have hread : Url.read (slashed (strip isBlank s.toList)) = .ok (.web u) := by
    rw [parse, toList_withSlash, strip_slashed] at h
    split at h
    · rename_i hu
      cases h
      exact hu
    · cases h
    · cases h
  have hfound : ∃ v, Url.read (strip isBlank s.toList) = .ok (.web v) ∧ v.scheme = u.scheme ∧
      v.authority = u.authority := by
    rcases slashed_cases (strip isBlank s.toList) with ⟨-, hsame⟩ | hsame
    · exact ⟨u, hsame ▸ hread, rfl, rfl⟩
    · exact Url.read_of_concat (hsame ▸ hread)
  obtain ⟨v, hv, hscheme, hauthority⟩ := hfound
  refine ⟨v, ?_, hscheme, hauthority⟩
  rw [parse, hv]

end Fleet
