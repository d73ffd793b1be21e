/-
  Fleet/Proofs/Json/Canonical.lean
  ================================
  **Values in their canonical form.**

  In a canonical value the fields of every object stand in ascending order of their keys, each
  key once, so a field is found by its key exactly if it is there (`Fields.get?_eq_some_iff`).
  `Fields.insert` keeps this form, and the reader puts all objects together with it: every value
  that is read from a text is canonical (`isCanonical_of_parse`).
-/
import Mathlib.Tactic.SplitIfs
import Fleet.Json.Parser

namespace Fleet.Json

open Fleet.Text

/-! ### Fields -/

namespace Fields

def Ascending (o : Fields) : Prop := o.Pairwise fun a b => a.1 < b.1

theorem mem_insert {k : String} {v : Json} {o : Fields} {p : String × Json}
    (h : p ∈ o.insert k v) : p = (k, v) ∨ p ∈ o := by
  induction o with
  | nil => exact .inl (List.mem_singleton.1 h)
  | cons q o ih =>
    unfold insert at h
    split at h
    · exact (List.mem_cons.1 h).imp_right (List.mem_cons_of_mem _)
    · split at h
      · exact List.mem_cons.1 h
      · rcases List.mem_cons.1 h with h | h
        · exact .inr (h ▸ List.mem_cons_self)
        · exact (ih h).imp_right (List.mem_cons_of_mem _)

theorem Ascending.insert {o : Fields} (h : o.Ascending) (k : String) (v : Json) :
    (o.insert k v).Ascending := by
  induction o with
  | nil => exact List.pairwise_singleton _ _
  | cons q o ih =>
    obtain ⟨hq, ho⟩ := List.pairwise_cons.1 h
    unfold Fields.insert
    split
    · rename_i hk
      exact List.pairwise_cons.2 ⟨fun p hp => hk ▸ hq p hp, ho⟩
    · rename_i hne
      split
      · rename_i hlt
        refine List.pairwise_cons.2 ⟨fun p hp => ?_, h⟩
        rcases List.mem_cons.1 hp with rfl | hp
        · exact hlt
        · exact String.lt_trans hlt (hq p hp)
      · rename_i hge
        refine List.pairwise_cons.2 ⟨fun p hp => ?_, ih ho⟩
        rcases mem_insert hp with rfl | hp
        · exact Decidable.byContradiction fun hle =>
            hne (String.le_antisymm (String.not_lt.1 hle) (String.not_lt.1 hge))
        · exact hq p hp

theorem Ascending.get?_eq_some_iff {o : Fields} (h : o.Ascending) {k : String} {v : Json} :
    o.get? k = some v ↔ (k, v) ∈ o := by
  induction o with
  | nil => simp [get?]
  | cons q o ih =>
    obtain ⟨hq, ho⟩ := List.pairwise_cons.1 h
    obtain ⟨k', v'⟩ := q
    simp only [get?, List.mem_cons, Prod.mk.injEq]
    split
    · rename_i hk
      subst hk
      constructor
      · exact fun he => .inl ⟨rfl, (Option.some.inj he).symm⟩
      · rintro (⟨-, rfl⟩ | hmem)
        · rfl
        · exact absurd (hq _ hmem) (String.lt_irrefl k)
    · rename_i hk
      rw [ih ho]
      exact ⟨.inr, fun h => h.resolve_left fun he => hk he.1⟩

end Fields

/-! ### Canonical values -/

/-- The fields of every object in the value stand in ascending order of their keys. -/
inductive IsCanonical : Json → Prop where
  | null : IsCanonical .null
  | bool (b : Bool) : IsCanonical (.bool b)
  | num (n : Number) : IsCanonical (.num n)
  | str (s : String) : IsCanonical (.str s)
  | arr {items : List Json} : (∀ j ∈ items, IsCanonical j) → IsCanonical (.arr items)
  | obj {o : Fields} : o.Ascending → (∀ p ∈ o, IsCanonical p.2) → IsCanonical (.obj o)

/-- Fields that make up a canonical object. -/
def Fields.IsCanonical (o : Fields) : Prop := o.Ascending ∧ ∀ p ∈ o, p.2.IsCanonical

theorem Fields.IsCanonical.insert {o : Fields} (h : o.IsCanonical) (k : String) {v : Json}
    (hv : v.IsCanonical) : (o.insert k v).IsCanonical :=
  ⟨h.1.insert k v, fun p hp => by
    rcases Fields.mem_insert hp with rfl | hp
    · exact hv
    · exact h.2 p hp⟩

/-! ### Reading -/

/-- What a step that went through gives. -/
def Gives {cs : List Char} (step : Step α cs) (P : α → Prop) : Prop :=
  ∀ a rest, step = .ok (a, rest) → P a

/-- What the functions of the reader give on a text. -/
structure Reads (cs : List Char) : Prop where
  value : ∀ depth, Gives (value depth cs) IsCanonical
  items : ∀ depth seen, (∀ j ∈ seen, IsCanonical j) →
    Gives (items depth seen cs) fun js => ∀ j ∈ js, IsCanonical j
  members : ∀ depth first seen, seen.IsCanonical →
    Gives (members depth first seen cs) Fields.IsCanonical
  member : ∀ depth seen, seen.IsCanonical → Gives (member depth seen cs) Fields.IsCanonical

theorem of_bind_eq_ok {ε α β : Type} {x : Except ε α} {f : α → Except ε β} {b : β}
    (h : x >>= f = .ok b) : ∃ a, x = .ok a ∧ f a = .ok b := by
  cases x with
  | error e => cases h
  | ok a => exact ⟨a, rfl, h⟩

theorem of_mapError_eq_ok {ε ε' α : Type} {f : ε → ε'} {x : Except ε α} {a : α}
    (h : x.mapError f = .ok a) : x = .ok a := by
  cases x with
  | error e => cases h
  | ok b => exact congrArg Except.ok (Except.ok.inj h)

theorem value_gives {depth : Nat} {cs : List Char} (ih : ∀ cs', cs'.length < cs.length → Reads cs') :
    Gives (value depth cs) IsCanonical := by
  intro j rest h
  rw [value] at h
  split at h
  · cases h
  · rename_i c r hskip
    have hr := length_lt_of_skip hskip
    dsimp only at h
    split_ifs at h
    · obtain ⟨⟨r', _⟩, -, he⟩ := of_bind_eq_ok h
      cases he
      exact .null
    · obtain ⟨⟨r', _⟩, -, he⟩ := of_bind_eq_ok h
      cases he
      exact .bool true
    · obtain ⟨⟨r', _⟩, -, he⟩ := of_bind_eq_ok h
      cases he
      exact .bool false
    · obtain ⟨⟨x, r', _⟩, -, he⟩ := of_bind_eq_ok h
      cases he
      exact .num x
    · obtain ⟨⟨x, r', _⟩, -, he⟩ := of_bind_eq_ok h
      cases he
      exact .num x
    · obtain ⟨⟨x, r', _⟩, -, he⟩ := of_bind_eq_ok h
      cases he
      exact .str x
    · cases depth with
      | zero => cases h
      | succ depth =>
        obtain ⟨⟨x, r', _⟩, hx, he⟩ := of_bind_eq_ok h
        cases he
        exact .arr ((ih _ hr).items _ [] (by simp) _ _ hx)
    · cases depth with
      | zero => cases h
      | succ depth =>
        obtain ⟨⟨x, r', _⟩, hx, he⟩ := of_bind_eq_ok h
        cases he
        have hfields := (ih _ hr).members _ true [] ⟨List.Pairwise.nil, by simp⟩ _ _ hx
        exact .obj hfields.1 hfields.2
    · cases h

theorem items_gives {depth : Nat} {seen : List Json} {cs : List Char}
    (ih : ∀ cs', cs'.length < cs.length → Reads cs')
    (hvalue : ∀ depth, Gives (value depth cs) IsCanonical) (hseen : ∀ j ∈ seen, IsCanonical j) :
    Gives (items depth seen cs) fun js => ∀ j ∈ js, IsCanonical j := by
  intro js rest h
  rw [items] at h
  split at h
  · cases h
  · cases h
    simpa using hseen
  · rename_i c r _ hskip
    have hr := length_lt_of_skip hskip
    dsimp only at h
    split at h
    · obtain ⟨⟨x, r', hr'⟩, hx, h⟩ := of_bind_eq_ok h
      obtain ⟨⟨xs, r'', _⟩, hxs, he⟩ := of_bind_eq_ok h
      cases he
      have hx := hvalue _ _ _ hx
      exact (ih r' hr').items _ [x] (by simpa using hx) _ _ hxs
    · split at h
      · split at h
        · cases h
        · cases h
        · obtain ⟨⟨x, r', hr'⟩, hx, h⟩ := of_bind_eq_ok h
          obtain ⟨⟨xs, r'', _⟩, hxs, he⟩ := of_bind_eq_ok h
          cases he
          have hx := (ih r hr).value _ _ _ hx
          exact (ih r' (by omega)).items _ (x :: seen)
            (fun j hj => (List.mem_cons.1 hj).elim (fun e => e ▸ hx) (hseen j)) _ _ hxs
      · cases h

theorem members_gives {depth : Nat} {first : Bool} {seen : Fields} {cs : List Char}
    (ih : ∀ cs', cs'.length < cs.length → Reads cs') (hseen : seen.IsCanonical) :
    Gives (members depth first seen cs) Fields.IsCanonical := by
  intro o rest h
  rw [members] at h
  split at h
  · cases h
  · cases h
    exact hseen
  · rename_i c r _ hskip
    have hr := length_lt_of_skip hskip
    dsimp only at h
    split at h
    · split at h
      · obtain ⟨⟨x, r', hr'⟩, hx, he⟩ := of_bind_eq_ok h
        cases he
        exact (ih r hr).member _ seen hseen _ _ hx
      · cases h
    · split at h
      · split at h
        · cases h
        · rename_i r' hskip'
          have hr' := length_lt_of_skip hskip'
          obtain ⟨⟨x, r'', _⟩, hx, he⟩ := of_bind_eq_ok h
          cases he
          exact (ih r' (by omega)).member _ seen hseen _ _ hx
        · cases h
        · cases h
      · cases h

theorem member_gives {depth : Nat} {seen : Fields} {cs : List Char}
    (ih : ∀ cs', cs'.length < cs.length → Reads cs') (hseen : seen.IsCanonical) :
    Gives (member depth seen cs) Fields.IsCanonical := by
  intro o rest h
  rw [member] at h
  obtain ⟨⟨k, r, hr⟩, -, h⟩ := of_bind_eq_ok h
  dsimp only at h
  split at h
  · cases h
  · rename_i r' hskip
    have hr' := length_lt_of_skip hskip
    obtain ⟨⟨v, q, hq⟩, hv, h⟩ := of_bind_eq_ok h
    obtain ⟨⟨o', q', hq'⟩, ho, he⟩ := of_bind_eq_ok h
    cases he
    have hv := (ih r' (by omega)).value _ _ _ hv
    exact (ih q (by omega)).members _ false _ (hseen.insert k hv) _ _ ho
  · cases h

/-- **The reader gives canonical values**, on every text. -/
theorem reads (cs : List Char) : Reads cs := by
  induction hn : cs.length using Nat.strongRecOn generalizing cs with
  | ind n ih =>
    subst hn
    have ih : ∀ cs', cs'.length < cs.length → Reads cs' := fun cs' hlt => ih _ hlt cs' rfl
    have hvalue : ∀ depth, Gives (value depth cs) IsCanonical := fun depth => value_gives ih
    exact {
      value := hvalue
      items := fun depth seen hseen => items_gives ih hvalue hseen
      members := fun depth first seen hseen => members_gives ih hseen
      member := fun depth seen hseen => member_gives ih hseen }

/-- **A value that has been read is canonical.** -/
theorem isCanonical_of_parse {text : String} {j : Json} (h : parse text = .ok j) :
    j.IsCanonical := by
  unfold parse at h
  split at h
  · rename_i j' hdocument
    cases h
    unfold document at hdocument
    obtain ⟨⟨v, r, hr⟩, hv, he⟩ := of_bind_eq_ok hdocument
    dsimp only at he
    split at he
    · cases he
      exact (reads _).value _ _ _ hv
    · cases he
  · cases h

end Fleet.Json
