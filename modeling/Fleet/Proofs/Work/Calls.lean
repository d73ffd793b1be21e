/-
  Fleet/Proofs/Work/Calls.lean
  ============================
  **What can be told from the calls that a unit of work makes.**

  `Work.Makes R w` says that every call in `w` is one of those in `R`, whatever the calls before it
  are answered.  It can be read off the way in which `w` is put together, without running it, and
  it holds of every call in its history (`Makes.history`).

  If, for example, the clusters that are written all have some property (`Call.Writes`), then all
  clusters that are stored in the end have it (`Tables.Hold.applyAll`).
-/
import Fleet.Proofs.Work.Transaction

namespace Fleet

open Fleet.Store

/-! ### The calls in a unit of work -/

namespace Work

variable {σ : Type} {R : ∀ {β : Type}, Call β → Prop}

def Makes (R : ∀ {β : Type}, Call β → Prop) : Work σ α → Prop
  | done _ | fail _ | breakDown _ => True
  | call c next => R c ∧ ∀ r, (next r).Makes R
  | nest body next => body.Makes R ∧ ∀ r, (next r).Makes R
  | draw next => ∀ u, (next u).Makes R
  | askCancelled next => ∀ b, (next b).Makes R
  | awaitCancel next => next.Makes R
  | read next => ∀ x, (next x).Makes R
  | write _ next => next.Makes R
  | keep next => next.Makes R
  | sever next => next.Makes R

theorem makes_ask {c : Call β} (h : R c) : (ask c : Work σ β).Makes R := by
  constructor
  · exact h
  · rintro (e | b) <;> trivial

theorem Makes.bind {w : Work σ α} {f : α → Work σ β} (h : w.Makes R) (hf : ∀ a, (f a).Makes R) :
    (w >>= f).Makes R := by
  change (w.bind f).Makes R
  induction w with
  | done a => exact hf a
  | fail e => trivial
  | breakDown b => trivial
  | call c next ih | nest body next _ ih =>
    refine ⟨h.1, ?_⟩
    intro r
    exact ih r (h.2 r) hf
  | draw next ih | askCancelled next ih | read next ih =>
    intro x
    exact ih x (h x) hf
  | awaitCancel next ih => exact ih h hf
  | write x next ih => exact ih h hf
  | keep next ih => exact ih h hf
  | sever next ih => exact ih h hf

theorem Makes.within {w : Work σ α} (h : w.Makes R) (context : String) :
    (w.within context).Makes R := by
  induction w with
  | done a => trivial
  | fail e => trivial
  | breakDown b => trivial
  | call c next ih | nest body next _ ih =>
    refine ⟨h.1, ?_⟩
    intro r
    exact ih r (h.2 r)
  | draw next ih | askCancelled next ih | read next ih =>
    intro x
    exact ih x (h x)
  | awaitCancel next ih => exact ih h
  | write x next ih => exact ih h
  | keep next ih => exact ih h
  | sever next ih => exact ih h

/-- An act that is one of these calls, or no call at all. -/
def Act.Makes (R : ∀ {β : Type}, Call β → Prop) : Act → Prop
  | .call _ c _ _ => R c
  | _ => True

/-- **Work that makes only these calls makes none but these.** -/
theorem Makes.history {w : Work σ α} (h : w.Makes R) (s : Scene σ) :
    ∀ ev ∈ w.history s, ev.act.Makes R := by
  induction w generalizing s with
  | done a | fail e | breakDown b => simp [Work.history]
  | call c next ih => exact List.forall_mem_cons.2 ⟨h.1, ih _ (h.2 _) _⟩
  | nest body next ihBody ih =>
    simp only [Work.history, List.forall_mem_append]
    refine ⟨ihBody h.1 s, ?_⟩
    rcases body.run s with ⟨o, s'⟩
    cases o with
    | done b => exact ih _ (h.2 _) _
    | failed e => exact ih _ (h.2 _) _
    | brokenDown b => simp
  | draw next ih => exact List.forall_mem_cons.2 ⟨trivial, ih _ (h _) _⟩
  | askCancelled next ih => exact ih _ (h _) _
  | awaitCancel next ih => exact List.forall_mem_cons.2 ⟨trivial, ih h _⟩
  | read next ih => exact ih _ (h _) _
  | write x next ih => exact List.forall_mem_cons.2 ⟨trivial, ih h _⟩
  | keep next ih => exact List.forall_mem_cons.2 ⟨trivial, ih h _⟩
  | sever next ih => exact List.forall_mem_cons.2 ⟨trivial, ih h _⟩

/-- What the effects of these calls keep, the effects of all events keep that make no others. -/
theorem applyAll_keeps {P : Tables → Prop}
    (hP : ∀ {β : Type} (c : Call β) (now : Nat) (t : Tables), R c → P t → P (c.effect now t))
    {t : Tables} {es : List (Event σ)} (h : P t) (hes : ∀ ev ∈ es, ev.act.Makes R) :
    P (applyAll t es) := by
  induction es generalizing t with
  | nil => exact h
  | cons ev es ih =>
    obtain ⟨hev, hes⟩ := List.forall_mem_cons.1 hes
    refine ih ?_ hes
    rcases ev with ⟨act, s⟩
    cases act with
    | call time c reply refused =>
      cases reply with
      | ok a => exact hP c time t hev h
      | error e => exact h
    | draw | await | write | keep | sever => exact h

end Work

/-! ### The clusters that are written -/

namespace Store

variable {Q : Cluster → Prop} {t : Tables}

def Call.Writes (Q : Cluster → Prop) : Call α → Prop
  | .create c => Q c
  | .save c => Q c
  | _ => True

/-- All rows hold such clusters. -/
def Tables.Hold (Q : Cluster → Prop) (t : Tables) : Prop :=
  ∀ r ∈ t.rows, ∃ c, r.decode = .ok c ∧ Q c

theorem Tables.hold_empty : Tables.empty.Hold Q := by
  intro r hr
  cases hr

/-- **What is written is what is stored.** -/
theorem Tables.Hold.effect (h : t.Hold Q) {c : Call α} (hc : c.Writes Q) (now : Nat) :
    (c.effect now t).Hold Q := by
  cases c with
  | create c =>
    refine List.forall_mem_append.2 ⟨h, ?_⟩
    rw [List.forall_mem_singleton]
    exact ⟨_, Row.decode_ofCluster now c, hc⟩
  | save c =>
    simp only [Call.effect]
    split
    · exact h
    · rename_i r hr
      intro row hrow
      obtain ⟨q, hq, rfl⟩ := List.mem_map.1 hrow
      split
      · exact ⟨_, Row.decode_overwrite now (row?_eq_some hr).2, hc⟩
      · exact h q hq
  | delete id =>
    simp only [Call.effect]
    split
    · exact h
    · intro row hrow
      exact h row (List.mem_filter.1 hrow).1
  | link _ _ => exact h
  | unlink _ _ =>
    simp only [Call.effect]
    split <;> exact h
  | load _ | find _ | list _ | loadLink _ _ | links _ | clustersOf _ => exact h

/-- What holds of the clusters that are written in some events holds of those that are stored
    after them. -/
theorem Tables.Hold.applyAll {σ : Type} {es : List (Work.Event σ)} (h : t.Hold Q)
    (hes : ∀ ev ∈ es, ev.act.Makes (Call.Writes Q)) : (Work.applyAll t es).Hold Q :=
  Work.applyAll_keeps (fun _ now _ hc ht => ht.effect hc now) h hes

end Store

end Fleet
