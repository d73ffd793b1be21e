/-
  Fleet/Proofs/Url/Siblings.lean
  ==============================
  **Whether anything can be derived from an endpoint does not depend on what is derived.**

  The host of a derived endpoint is a label, a dot and some text that comes from the host of the
  API.  The labels of the table of defaults are harmless in front of any text: they are not
  encoded, keep the rule for right-to-left text by themselves, and are no numbers.  So whether a
  host can be read behind such a label is a question about the text only
  (`IsPlainRule.isOk_parse_iff`), and either all of the endpoints beside an API can be derived
  or none of them (`isSome_derive?_congr`).
-/
import Fleet.Proofs.Url.Derived

namespace Fleet

open Fleet.Url

namespace Url

/-! ### Names behind a label -/

/-- What the text behind a harmless label must be for the whole to name a host. -/
def NamesHost (tail : List Char) : Prop :=
  (Domain.labels tail).all Domain.isBrief = true ∧ Domain.isDomain tail = true ∧
    Ipv4.isMeant tail = false

theorem labels_behind {label : List Char} (h : ∀ c ∈ label, c ≠ '.') (tail : List Char) :
    Domain.labels (label ++ '.' :: tail) = label :: Domain.labels tail :=
  List.splitOnP_append_cons_of_forall_mem (fun c hc => by simpa using h c hc) '.' (by decide) tail

/-- The last part of a name is that of the text behind its first dot, unless nothing is there. -/
theorem getLast?_parts_behind {label : List Char} (h : ∀ c ∈ label, c ≠ '.') {tail : List Char}
    (htail : tail ≠ []) :
    (Ipv4.parts (label ++ '.' :: tail)).getLast? = (Ipv4.parts tail).getLast? := by
  obtain ⟨l, ls, hls⟩ := List.exists_cons_of_ne_nil (List.splitOnP_ne_nil (· == '.') tail)
  have hsplit : (label ++ '.' :: tail).splitOnP (· == '.') = label :: l :: ls :=
    (labels_behind h tail).trans (by rw [Domain.labels, hls])
  rw [Ipv4.parts, Ipv4.parts, hsplit, hls]
  cases ls with
  | nil =>
    -- text without dots is one part, and it is not empty
    have hl : l ≠ [] := by
      rintro rfl
      have hjoined : ['.'].intercalate (tail.splitOn '.') = tail := List.intercalate_splitOn '.'
      rw [List.splitOn_eq_splitOnP, hls] at hjoined
      exact htail hjoined.symm
    simp [hl]
  | cons l' ls => by_cases hlast : (l' :: ls).getLast? = some [] <;> simp [hlast]

/-- A label in front does not make an address of a name, or a name of an address. -/
theorem isMeant_behind {label : List Char} (h : ∀ c ∈ label, c ≠ '.')
    (hlabel : Ipv4.isMeant label = false) (tail : List Char) :
    Ipv4.isMeant (label ++ '.' :: tail) = Ipv4.isMeant tail := by
  by_cases htail : tail = []
  · subst htail
    have hsplit : label.splitOnP (· == '.') = [label] :=
      List.splitOnP_eq_singleton fun c hc => by simpa using h c hc
    have hself : Ipv4.parts (label ++ ['.']) = Ipv4.parts label := by
      have hbehind : (label ++ ['.']).splitOnP (· == '.') = [label, []] := labels_behind h []
      simp [Ipv4.parts, hsplit, hbehind]
    rw [Ipv4.isMeant, hself, ← Ipv4.isMeant, hlabel]
    rfl
  · rw [Ipv4.isMeant, Ipv4.isMeant, getLast?_parts_behind h htail]

end Url

namespace Endpoint

/-! ### Rules with harmless labels -/

/-- A rule whose label is harmless in front of a domain name. -/
structure IsPlainRule (label path : String) : Prop extends IsRule label path where
  allowed : ∀ c ∈ label.toList,
    (Domain.isAscii c && !c.isUpper && !Domain.isForbidden c) = true
  notEncoded : Domain.ace.isPrefixOf label.toList = false
  leftToRight : label.toList.any Domain.isRightToLeft = false
  keepsDirection : Domain.keepsDirection label.toList = true
  notMeant : Ipv4.isMeant label.toList = false

theorem isPlainRule_of_mem_defaults {key label path : String}
    (h : (key, Config.Default.derived label path) ∈ Config.Field.defaults) :
    IsPlainRule label path := by
  have hrule := isRule_of_mem_defaults h
  simp only [Config.Field.defaults, List.mem_cons, Prod.mk.injEq, Config.Default.derived.injEq,
    reduceCtorEq, and_false, List.not_mem_nil, or_false] at h
  rcases h with ⟨-, rfl, rfl⟩ | ⟨-, rfl, rfl⟩ | ⟨-, rfl, rfl⟩
  all_goals exact ⟨hrule, List.all_eq_true.1 (by decide), by decide, by decide, by decide, by decide⟩

section Rule

variable {label path : String} (h : IsPlainRule label path)

include h

/-- A harmless label makes no difference to whether a text is a domain name. -/
theorem IsPlainRule.isDomain_behind (tail : List Char) :
    Domain.isDomain (label.toList ++ '.' :: tail) = Domain.isDomain tail := by
  have hall : (label.toList ++ '.' :: tail).all
      (fun c => Domain.isAscii c && !c.isUpper && !Domain.isForbidden c) =
      tail.all (fun c => Domain.isAscii c && !c.isUpper && !Domain.isForbidden c) := by
    have hlabel : label.toList.all
        (fun c => Domain.isAscii c && !c.isUpper && !Domain.isForbidden c) = true :=
      List.all_eq_true.2 fun c hc => h.allowed c hc
    rw [List.all_append, List.all_cons, hlabel]
    rfl
  have hreveal : (Domain.labels (label.toList ++ '.' :: tail)).mapM Domain.reveal =
      ((Domain.labels tail).mapM Domain.reveal).map (label.toList :: ·) := by
    rw [labels_behind (fun c hc => (h.chars c hc).2.2), List.mapM_cons, Domain.reveal,
      if_neg (by simp [h.notEncoded])]
    cases (Domain.labels tail).mapM Domain.reveal <;> rfl
  rw [Domain.isDomain, Domain.isDomain, hall, hreveal]
  cases (Domain.labels tail).mapM Domain.reveal with
  | none => rfl
  | some ls => simp [h.leftToRight, h.keepsDirection]

theorem IsPlainRule.isOk_ofDomain_behind (tail : List Char) :
    (Host.ofDomain (label.toList ++ '.' :: tail)).isOk = !Ipv4.isMeant tail := by
  have hdot : ∀ c ∈ label.toList, c ≠ '.' := fun c hc => (h.chars c hc).2.2
  rw [Host.ofDomain, if_neg (by simp), isMeant_behind hdot h.notMeant, h.ipv4_eq_none]
  cases Ipv4.isMeant tail <;> rfl

section Lower

variable {tail : List Char} (htail : ∀ c ∈ tail, isLower c = true)

include htail

theorem IsPlainRule.ofText?_behind :
    Domain.ofText? (label.toList ++ '.' :: tail) =
      if (Domain.labels tail).all Domain.isBrief && Domain.isDomain tail then
        some (label.toList ++ '.' :: tail) else none := by
  have hbrief : (Domain.labels (label.toList ++ '.' :: tail)).all Domain.isBrief =
      (Domain.labels tail).all Domain.isBrief := by
    rw [labels_behind fun c hc => (h.chars c hc).2.2, List.all_cons, Domain.isBrief, h.notEncoded]
    rfl
  rw [Domain.ofText?, candidate_of_lower (h.isLower_behind htail), hbrief]
  cases hb : (Domain.labels tail).all Domain.isBrief with
  | false => rfl
  | true => cases hd : Domain.isDomain tail <;> simp [Option.filter, h.isDomain_behind, hd]

/-- **Whether a host is read behind a harmless label is a question about what follows it.** -/
theorem IsPlainRule.isOk_parse_iff :
    (Host.parse (label.toList ++ '.' :: tail)).isOk = true ↔ NamesHost tail := by
  -- a domain name holds no blanks and controls
  have hcontrol : Domain.isDomain tail = true →
      ¬ (label.toList ++ '.' :: tail).any (·.toNat ≤ 32) = true := by
    intro hd hany
    obtain ⟨c, hc, hle⟩ := List.any_eq_true.1 hany
    have hplain := (plain_of_isDomain ((h.isDomain_behind tail).trans hd) hc).1
    simp only [isPlain, Bool.and_eq_true, decide_eq_true_eq] at hplain hle
    omega
  rw [Host.parse, if_neg (h.head_ne _), decodeText_of_lower (h.isLower_behind htail),
    Option.bind_some, h.ofText?_behind htail, NamesHost]
  cases hd : Domain.isDomain tail with
  | true =>
    rw [if_neg (hcontrol hd)]
    cases hb : (Domain.labels tail).all Domain.isBrief with
    | true => simp [h.isOk_ofDomain_behind]
    | false => simp [Except.isOk, Except.toBool]
  | false =>
    rw [Bool.and_false]
    refine iff_of_false ?_ fun hnames => Bool.false_ne_true hnames.2.1
    split <;> exact Bool.false_ne_true

end Lower

end Rule

/-- **An endpoint can be derived exactly if what follows its label lets it name a host.** -/
theorem IsPlainRule.isSome_derive?_iff {label path : String} (h : IsPlainRule label path) {api : Url}
    (hapi : api.Tidy) : (derive? api label path).isSome = true ↔ NamesHost (tailOf api) := by
  rw [h.derive?_eq, Option.isSome_map, ← h.isOk_parse_iff (isLower_tailOf hapi)]
  cases Host.parse (label.toList ++ '.' :: tailOf api) <;>
    simp [Except.isOk, Except.toBool, Except.toOption]

/-- **Either every endpoint beside an API can be derived, or none.** -/
theorem isSome_derive?_congr {api : Url} (hapi : api.Tidy) {label label' path path' : String}
    (h : IsPlainRule label path) (h' : IsPlainRule label' path') :
    (derive? api label path).isSome = (derive? api label' path').isSome :=
  Bool.eq_iff_iff.2 ((h.isSome_derive?_iff hapi).trans (h'.isSome_derive?_iff hapi).symm)

end Endpoint

end Fleet
