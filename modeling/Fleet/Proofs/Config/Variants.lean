/-
  Fleet/Proofs/Config/Variants.lean
  =================================
  **Documents that differ in some values of their records only.**

  A relation between values says under which keys a value may be another one, and which
  (`Record.Variant`, `DocumentVariant`).  Whatever the relation, both documents have a list of
  items, and these are variants of each other in their places, or both have none
  (`DocumentVariant.exists_items`).

  If the relation carries over what is asked of a record and by which endpoint it is known
  (`Transfers`), then together with one of the two documents the other one is loaded, and their
  definitions are those of records that are variants of each other (`Transfers.exists_definitions`).
-/
import Fleet.Proofs.Config.Acceptance

namespace Fleet.Config

open Fleet.Json (Fields)

/-! ### Variants -/

section Relations

variable (R : String → Json → Json → Prop)

/-- Records with the same keys, and with related values under each of them. -/
def Record.Variant (r r' : Record) : Prop :=
  ∀ key, Option.Rel (R key) (Fields.get? key r) (Fields.get? key r')

/-- The same item, or two records. -/
inductive ItemVariant : Json → Json → Prop where
  | same (j : Json) : ItemVariant j j
  | record {r r' : Record} (h : r.Variant R r') : ItemVariant (.obj r) (.obj r')

/-- The same document, or two lists of items, which objects may hold under `clusters` if they
    say the same under their other keys. -/
inductive DocumentVariant : Json → Json → Prop where
  | same (j : Json) : DocumentVariant j j
  | list {items items' : List Json} (h : List.Forall₂ (ItemVariant R) items items') :
      DocumentVariant (.arr items) (.arr items')
  | clusters {o o' : Fields} {items items' : List Json}
      (hlist : o.get? "clusters" = some (.arr items)) (hlist' : o'.get? "clusters" = some (.arr items'))
      (h : List.Forall₂ (ItemVariant R) items items')
      (hothers : ∀ key, key ≠ "clusters" → o.get? key = o'.get? key) :
      DocumentVariant (.obj o) (.obj o')

end Relations

variable {R : String → Json → Json → Prop} {document document' : Json} {items items' : List Json}
  {records records' : List Record} {r r' : Record}

theorem Record.Variant.get?_cases (h : r.Variant R r') (key : String) :
    (Fields.get? key r = none ∧ Fields.get? key r' = none) ∨
      ∃ v v', Fields.get? key r = some v ∧ Fields.get? key r' = some v' ∧ R key v v' := by
  have hkey := h key
  generalize Fields.get? key r = x, Fields.get? key r' = x' at hkey
  cases hkey with
  | none => exact .inl ⟨rfl, rfl⟩
  | some hv => exact .inr ⟨_, _, rfl, rfl, hv⟩

theorem Record.Variant.refl (hR : ∀ key v, R key v v) (r : Record) : r.Variant R r := by
  intro key
  cases Fields.get? key r with
  | none => exact .none
  | some v => exact .some (hR key v)

section Symmetric

variable (hR : ∀ key v v', R key v v' → R key v' v)

include hR

theorem Record.Variant.symm (h : r.Variant R r') : r'.Variant R r := by
  intro key
  rcases h.get?_cases key with ⟨hnone, hnone'⟩ | ⟨v, v', hv, hv', hrel⟩
  · rw [hnone, hnone']
    exact .none
  · rw [hv, hv']
    exact .some (hR key v v' hrel)

theorem symm_items (h : List.Forall₂ (ItemVariant R) items items') :
    List.Forall₂ (ItemVariant R) items' items := by
  refine List.Forall₂.flip (h.imp ?_)
  intro j j' hj
  cases hj with
  | same => exact .same j
  | record hr => exact .record (hr.symm hR)

theorem DocumentVariant.symm (h : DocumentVariant R document document') :
    DocumentVariant R document' document := by
  cases h with
  | same => exact .same document
  | list h => exact .list (symm_items hR h)
  | clusters hlist hlist' h hothers =>
    exact .clusters hlist' hlist (symm_items hR h) fun key hkey => (hothers key hkey).symm

end Symmetric

/-! ### Their lists -/

/-- **Both documents have a list, with variants in the same places, or neither has one.** -/
theorem DocumentVariant.exists_items (h : DocumentVariant R document document') :
    (∃ cause, recordsOf document = .error cause ∧ recordsOf document' = .error cause) ∨
      ∃ items items', recordsOf document = .ok items ∧ recordsOf document' = .ok items' ∧
        List.Forall₂ (ItemVariant R) items items' := by
  cases h with
  | same =>
    cases hrecords : recordsOf document with
    | error cause => exact .inl ⟨cause, rfl, rfl⟩
    | ok items => exact .inr ⟨items, items, rfl, rfl, List.forall₂_same.2 fun j _ => .same j⟩
  | list h => exact .inr ⟨_, _, rfl, rfl, h⟩
  | clusters hlist hlist' h _ =>
    exact .inr ⟨_, _, by rw [recordsOf, hlist], by rw [recordsOf, hlist'], h⟩

theorem exists_records_of_variant (hR : ∀ key v, R key v v)
    (h : List.Forall₂ (ItemVariant R) (records.map .obj) items') :
    ∃ records' : List Record, items' = records'.map .obj ∧
      List.Forall₂ (Record.Variant R) records records' := by
  induction records generalizing items' with
  | nil =>
    cases h
    exact ⟨[], rfl, .nil⟩
  | cons r records ih =>
    cases h with
    | cons hitem hitems =>
      obtain ⟨records', rfl, hrecords⟩ := ih hitems
      cases hitem with
      | same => exact ⟨r :: records', rfl, .cons (.refl hR r) hrecords⟩
      | record hr => exact ⟨_ :: records', rfl, .cons hr hrecords⟩

/-! ### Loading both -/

/-- What is asked of a record is asked of its variants, and they are known by its endpoint. -/
structure Transfers (R : String → Json → Json → Prop) : Prop where
  refl : ∀ key v, R key v v
  documented : ∀ {r r' : Record}, r.Variant R r' → r.Documented → r'.Documented
  endpoint? : ∀ {r r' : Record}, r.Variant R r' → r.Documented → r'.endpoint? = r.endpoint?

/-- The definitions of two records that are as documented and variants of each other. -/
structure DefinedByVariants (R : String → Json → Json → Prop) (r r' : Record) (d d' : Definition) :
    Prop where
  variant : r.Variant R r'
  documented : r.Documented
  documented' : r'.Documented
  defines : r.Defines d
  defines' : r'.Defines d'

namespace Transfers

theorem documented_all (hR : Transfers R) (h : List.Forall₂ (Record.Variant R) records records')
    (hrecords : ∀ r ∈ records, r.Documented) :
    (∀ r' ∈ records', r'.Documented) ∧ records'.map Record.endpoint? = records.map Record.endpoint? := by
  induction h with
  | nil => exact ⟨by simp, rfl⟩
  | cons hr _ ih =>
    obtain ⟨hdocumented, hrecords⟩ := List.forall_mem_cons.1 hrecords
    obtain ⟨hrecords', hendpoints⟩ := ih hrecords
    refine ⟨List.forall_mem_cons.2 ⟨hR.documented hr hdocumented, hrecords'⟩, ?_⟩
    rw [List.map_cons, List.map_cons, hR.endpoint? hr hdocumented, hendpoints]

theorem acceptable (hR : Transfers R) (h : List.Forall₂ (Record.Variant R) records records')
    (hrecords : Acceptable records) : Acceptable records' := by
  obtain ⟨hdocumented, hendpoints⟩ := hR.documented_all h hrecords.documented
  refine ⟨?_, hdocumented, ?_⟩
  · rintro rfl
    cases h
    exact hrecords.nonempty rfl
  · rw [hendpoints]
    exact hrecords.distinct

theorem definedByVariants (h : List.Forall₂ (Record.Variant R) records records')
    (hrecords : ∀ r ∈ records, r.Documented) (hrecords' : ∀ r' ∈ records', r'.Documented)
    {ds ds' : List Definition} (hds : List.Forall₂ Record.Defines records ds)
    (hds' : List.Forall₂ Record.Defines records' ds') :
    List.Forall₂ (fun d d' => ∃ r r', DefinedByVariants R r r' d d') ds ds' := by
  induction h generalizing ds ds' with
  | nil =>
    cases hds
    cases hds'
    exact .nil
  | cons hr _ ih =>
    obtain ⟨hdocumented, hrecords⟩ := List.forall_mem_cons.1 hrecords
    obtain ⟨hdocumented', hrecords'⟩ := List.forall_mem_cons.1 hrecords'
    cases hds with
    | cons hd hds =>
      cases hds' with
      | cons hd' hds' =>
        exact .cons ⟨_, _, hr, hdocumented, hdocumented', hd, hd'⟩ (ih hrecords hrecords' hds hds')

/-- **With a documented document its variants are loaded**, and their definitions come from
    variants of its records. -/
theorem exists_definitions (hR : Transfers R) (h : DocumentVariant R document document')
    (hdocument : document.IsCanonical) (hdocument' : document'.IsCanonical)
    (hdocumented : Documented document) :
    ∃ ds ds', ofJson document = .ok (Snapshot.ofList ds) ∧
      ofJson document' = .ok (Snapshot.ofList ds') ∧
      List.Forall₂ (fun d d' => ∃ r r', DefinedByVariants R r r' d d') ds ds' := by
  obtain ⟨records, hlists, hrecords⟩ := hdocumented
  rcases h.exists_items with ⟨cause, hnone, -⟩ | ⟨items, items', hitems, hitems', hvariants⟩
  · rw [recordsOf_eq_ok_iff.2 hlists] at hnone
    cases hnone
  · rw [recordsOf_eq_ok_iff.2 hlists] at hitems
    cases hitems
    obtain ⟨records', rfl, hrelated⟩ := exists_records_of_variant hR.refl hvariants
    have hlists' := recordsOf_eq_ok_iff.1 hitems'
    have hrecords' := hR.acceptable hrelated hrecords
    obtain ⟨ds, hds, hdefines⟩ :=
      ofJson_of_records hlists hrecords (hlists.ascending hdocument)
    obtain ⟨ds', hds', hdefines'⟩ :=
      ofJson_of_records hlists' hrecords' (hlists'.ascending hdocument')
    exact ⟨ds, ds', hds, hds',
      definedByVariants hrelated hrecords.documented hrecords'.documented hdefines hdefines'⟩

end Transfers

end Fleet.Config
