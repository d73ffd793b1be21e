/-
  Fleet/Proofs/Identifiers.lean
  =============================
  **Identifiers are read back from their written form.**

  The written form of an identifier is 32 lower-case digits cut into five groups.  Taking the
  hyphens out gives the digits back (`filter_intercalate`, `flatten_cut`), the digits give the
  number back (`Hex.number_padded`), and none of the other forms of identifiers can be mistaken
  for this one, since it begins with a digit and is longer than 32 characters.

  Hence `Uuid.parse_render`: a stored identifier that the registry wrote is always readable,
  and two identifiers with one written form are the same.
-/
import Mathlib.Tactic.IntervalCases
import Fleet.Uuid

namespace Fleet

open Fleet.Text

/-! ### Digits -/

namespace Text.Hex

theorem value?_digit {d : Nat} (h : d < 16) : value? (digit d) = some d := by
  interval_cases d <;> rfl

theorem isDigit_digit {d : Nat} (h : d < 16) : isDigit (digit d) = true := by
  simp [isDigit, value?_digit h]

@[simp] theorem length_padded (k n : Nat) : (padded k n).length = k := by
  induction k generalizing n with
  | zero => rfl
  | succ k ih => simp [padded, ih]

theorem exists_of_mem_padded {k n : Nat} {c : Char} (h : c ∈ padded k n) :
    ∃ d, d < 16 ∧ c = digit d := by
  induction k generalizing n with
  | zero => cases h
  | succ k ih =>
    simp only [padded, List.mem_append, List.mem_singleton] at h
    rcases h with h | rfl
    · exact ih h
    · exact ⟨_, Nat.mod_lt _ (by decide), rfl⟩

theorem isDigit_of_mem_padded {k n : Nat} {c : Char} (h : c ∈ padded k n) :
    isDigit c = true := by
  obtain ⟨d, hd, rfl⟩ := exists_of_mem_padded h
  exact isDigit_digit hd

theorem number_concat_digit (cs : List Char) {d : Nat} (h : d < 16) :
    number (cs ++ [digit d]) = 16 * number cs + d := by
  simp [number, value?_digit h]

theorem number_padded (k n : Nat) : number (padded k n) = n % 16 ^ k := by
  induction k generalizing n with
  | zero => simp [padded, number, Nat.mod_one]
  | succ k ih =>
    have hd : n % 16 < 16 := Nat.mod_lt _ (by decide)
    rw [padded, number_concat_digit _ hd, ih, Nat.pow_succ', Nat.mod_mul]
    omega

theorem isDigit_hyphen : isDigit '-' = false := by decide

end Text.Hex

namespace Uuid

/-! ### Groups -/

theorem flatten_cut (ks : List Nat) (cs : List Char) (h : cs.length ≤ ks.sum) :
    (cut ks cs).flatten = cs := by
  induction ks generalizing cs with
  | nil =>
    have : cs = [] := List.length_eq_zero_iff.1 (Nat.le_zero.1 (by simpa using h))
    simp [cut, this]
  | cons k ks ih =>
    have hd : (cs.drop k).length ≤ ks.sum := by
      simp only [List.sum_cons] at h
      simp only [List.length_drop]
      omega
    rw [cut, List.flatten_cons, ih _ hd, List.take_append_drop]

/-- Taking the separators out of joined groups that hold none gives the groups. -/
theorem filter_intercalate (x : Char) (gs : List (List Char)) (h : ∀ g ∈ gs, x ∉ g) :
    ([x].intercalate gs).filter (· ≠ x) = gs.flatten := by
  induction gs with
  | nil => simp [List.intercalate]
  | cons g gs ih =>
    have hg : g.filter (· ≠ x) = g :=
      List.filter_eq_self.2 fun c hc => by
        simpa using fun e : c = x => h g (by simp) (e ▸ hc)
    have ih := ih fun g' hg' => h g' (List.mem_cons_of_mem _ hg')
    cases gs with
    | nil => simpa [List.intercalate] using hg
    | cons g' gs =>
      rw [List.intercalate_cons_cons, List.filter_append, List.filter_append, hg, ih]
      simp

theorem mem_of_mem_cut {ks : List Nat} {cs g : List Char} {c : Char} (hg : g ∈ cut ks cs)
    (hc : c ∈ g) : c ∈ cs := by
  induction ks generalizing cs with
  | nil => cases hg
  | cons k ks ih =>
    rcases List.mem_cons.1 hg with rfl | hg
    · exact List.mem_of_mem_take hc
    · exact List.mem_of_mem_drop (ih hg)

/-! ### Reading what has been written -/

def digits (u : Uuid) : List Char := Hex.padded 32 u.bits.toNat

theorem toList_render (u : Uuid) :
    u.render.toList = ['-'].intercalate (cut groups u.digits) := by
  simp [render, digits]

theorem hyphen_not_mem_digits (u : Uuid) : '-' ∉ u.digits := by
  intro h
  have := Hex.isDigit_of_mem_padded h
  rw [Hex.isDigit_hyphen] at this
  cases this

theorem filter_toList_render (u : Uuid) : u.render.toList.filter (· ≠ '-') = u.digits := by
  rw [toList_render, filter_intercalate '-' _ fun g hg h => hyphen_not_mem_digits u (mem_of_mem_cut hg h)]
  exact flatten_cut _ _ (by simp [digits, groups])

theorem ofDigits?_digits (u : Uuid) : ofDigits? u.digits = some u := by
  have hl : u.digits.length = 32 := Hex.length_padded _ _
  have hd : u.digits.all Hex.isDigit = true :=
    List.all_eq_true.2 fun c hc => Hex.isDigit_of_mem_padded hc
  have hn : Hex.number u.digits = u.bits.toNat := by
    rw [digits, Hex.number_padded]
    exact Nat.mod_eq_of_lt u.bits.isLt
  simp [ofDigits?, hl, hd, hn]

theorem ofHyphenated?_render (u : Uuid) : ofHyphenated? u.render.toList = some u := by
  rw [ofHyphenated?, filter_toList_render, ← toList_render, if_pos rfl, ofDigits?_digits]

/-- The written form begins with a digit, so it is neither in braces nor a name of a scheme. -/
theorem unwrap_render (u : Uuid) : unwrap u.render.toList = (u.render.toList, 0, true) := by
  obtain ⟨c, cs, hc⟩ : ∃ c cs, u.digits = c :: cs :=
    List.exists_cons_of_length_pos (by simp [digits])
  obtain ⟨d, hd, rfl⟩ : ∃ d, d < 16 ∧ c = Hex.digit d :=
    Hex.exists_of_mem_padded (show c ∈ u.digits from hc ▸ List.mem_cons_self)
  obtain ⟨r, hr⟩ : ∃ r, u.render.toList = Hex.digit d :: r := by
    rw [toList_render, hc]
    exact ⟨_, rfl⟩
  have hbrace : Hex.digit d ≠ '\x7b' := by interval_cases d <;> decide
  have hu : 'u' ≠ (Hex.digit d).toLower := by interval_cases d <;> decide
  simp [unwrap, hr, hbrace, urn, hu]

/-- **An identifier is read back from its written form.** -/
@[simp] theorem parse_render (u : Uuid) : parse u.render = .ok u := by
  have hbare : ofDigits? u.render.toList = none := by
    have hl : u.digits.length = 32 := Hex.length_padded _ _
    have hlen : u.render.toList.length ≠ 32 := by
      rw [toList_render]
      simp [List.intercalate, cut, groups, hl]
    simp [ofDigits?, hlen]
  simp [parse, unwrap_render, hbare, ofHyphenated?_render]

theorem render_injective : Function.Injective render := by
  intro u v h
  have hu := parse_render u
  rw [h, parse_render v] at hu
  exact (Except.ok.inj hu).symm

@[simp] theorem render_inj {u v : Uuid} : u.render = v.render ↔ u = v :=
  render_injective.eq_iff

end Uuid

end Fleet
