/-
  Fleet/Proofs/Service/Denial.lean
  ================================
  **A denied caller learns nothing and changes nothing.**

  The policy is asked before anything else is looked at.  So the answer to a denied call depends on
  the caller and on the kind of change alone, not on the rest of the request, nor on what there is in
  the registry (`Service.serve_of_not_allows`), and the registry is left as it was: no transaction
  begins, no time passes, and no identifier is drawn.

  Hence every other operation of a run finds the registry that it would have found without the denied
  calls (`Registry.log_filter`).
-/
import Fleet.Proofs.Service.Backends
import Fleet.Proofs.Service.Permission

namespace Fleet

/-! ### Denied calls -/

/-- Whether an operation is a change that its caller may not make. -/
def Operation.isDenied : Operation α → Bool
  | .serve s who q => q.action?.isSome && !s.policy.allows who
  | .call _ | .sync _ _ => false

/-- A denied call gets an answer, and that is all. -/
theorem Operation.perform_of_isDenied {op : Operation α} (h : op.isDenied = true) (r : Registry) :
    (op.perform r).2 = r := by
  cases op with
  | serve s who q =>
    obtain ⟨hchange, hdenied⟩ := (Bool.and_eq_true_iff.1 h)
    obtain ⟨what, hwhat⟩ := Option.isSome_iff_exists.1 hchange
    exact congrArg Prod.snd (Service.serve_of_not_allows (by simpa using hdenied) hwhat r)
  | call c => cases h
  | sync terms s => cases h

/-! ### Runs with denied calls -/

/-- An operation, with the answer to it. -/
structure Answered : Type 1 where
  {α : Type}
  operation : Operation α
  answer : Except Error α

namespace Registry

/-- Operations one after another, with the answers to them, and the registry that they leave. -/
def log (r : Registry) : List ((α : Type) × Operation α) → List Answered × Registry
  | [] => ([], r)
  | ⟨_, op⟩ :: ops =>
    let (answer, r) := op.perform r
    let (rest, r) := log r ops
    (⟨op, answer⟩ :: rest, r)

/-- **Denied calls can be left out of any run.** -/
theorem log_filter (ops : List ((α : Type) × Operation α)) (r : Registry) :
    r.log (ops.filter fun op => !op.2.isDenied) =
      ((r.log ops).1.filter fun a => !a.operation.isDenied, (r.log ops).2) := by
  induction ops generalizing r with
  | nil => rfl
  | cons op ops ih =>
    obtain ⟨α, op⟩ := op
    cases hdenied : op.isDenied with
    | true =>
      rw [List.filter_cons_of_neg (by simp [hdenied]), ih]
      simp only [log, Operation.perform_of_isDenied hdenied, List.filter_cons, hdenied, Bool.not_true,
        Bool.false_eq_true, if_false]
    | false =>
      rw [List.filter_cons_of_pos (by simp [hdenied])]
      simp only [log, ih, List.filter_cons, hdenied, Bool.not_false, if_true]

end Registry

/-- **A denied caller learns nothing and changes nothing.**  Every change is refused in the same words,
    whatever else is asked and whatever there is in the registry, which stays as it is.  So all denied
    calls of a run can be left out, and the other answers are the same, and so is the registry in the
    end. -/
theorem denied_unseen :
    (∀ (terms : Terms) (names : List String) (who : Caller),
      (∀ name ∈ names, who ≠ .serviceAccount name) →
        ∀ {α : Type} (q : Request α) (what : Action), q.action? = some what → ∀ r : Registry,
          (⟨terms, .only names⟩ : Service).serve who q r =
            (.error (.unauthorized (who.render ++ " may not " ++ what.render)), r)) ∧
    ∀ (ops : List ((α : Type) × Operation α)) (r : Registry),
      r.log (ops.filter fun op => !op.2.isDenied) =
        ((r.log ops).1.filter fun a => !a.operation.isDenied, (r.log ops).2) := by
  refine ⟨?_, Registry.log_filter⟩
  intro terms names who hwho α q what hwhat r
  have hdenied : (Policy.only names).allows who = false := by
    rw [Bool.eq_false_iff, ne_eq, Policy.allows_only]
    rintro ⟨name, hname, rfl⟩
    exact hwho name hname rfl
  exact Service.serve_of_not_allows hdenied hwhat r

/-- The registry serves a tenant, and a user may only look at it. -/
def tenancy : Service := ⟨Context.halfMinute, .only ["tenant"]⟩

/-- A user tries to delete a cluster that there is, and to save one that is not valid. -/
def attempts : List ((α : Type) × Operation α) := [
  ⟨_, .serve tenancy (.serviceAccount "tenant") (.save Run.loopback)⟩,
  ⟨_, .serve tenancy (.user .nil) (.delete ⟨1⟩)⟩,
  ⟨_, .serve tenancy (.user .nil) (.save (Context.bare ""))⟩,
  ⟨_, .serve tenancy (.user .nil) (.load ⟨1⟩)⟩]

theorem attempts_unseen :
    (∀ name ∈ ["tenant"], Caller.user .nil ≠ .serviceAccount name) ∧
      tenancy.serve (.user .nil) (.delete ⟨1⟩) (Context.blank .sqlite) =
        (.error (.unauthorized ((Caller.user .nil).render ++ " may not delete cluster")),
          Context.blank .sqlite) ∧
      (Context.blank .sqlite).log (attempts.filter fun op => !op.2.isDenied) =
        (((Context.blank .sqlite).log attempts).1.filter fun a => !a.operation.isDenied,
          ((Context.blank .sqlite).log attempts).2) ∧
      ((Context.blank .sqlite).log attempts).1.map (·.answer.isOk) = [true, false, false, true] ∧
      attempts.map (·.2.isDenied) = [false, true, true, false] := by
  have hwho : ∀ name ∈ ["tenant"], Caller.user .nil ≠ .serviceAccount name := by decide
  exact ⟨hwho, denied_unseen.1 Context.halfMinute _ _ hwho (.delete ⟨1⟩) .delete rfl _,
    denied_unseen.2 attempts _, by decide +kernel, by decide⟩

end Fleet
