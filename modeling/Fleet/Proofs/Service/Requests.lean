/-
  Fleet/Proofs/Service/Requests.lean
  ==================================
  **Serving requests.**

  The requests that the registry serves are one family (`Request`), so that a fact about all of
  them can be stated at once.  Whatever is requested, the registry does one of three things
  (`Service.serve_cases`): nothing, a unit of work in a transaction of its own, or one look-up.
-/
import Fleet.Service

namespace Fleet

open Fleet.Store

/-- Requests, by the type of their answer. -/
inductive Request : Type → Type where
  | save (c : Cluster) : Request Registered
  | delete (id : Uuid) : Request Unit
  | link (identity : Uuid) (url : String) (ignoreExisting : Bool) : Request Unit
  | unlink (identity : Uuid) (url : String) : Request Unit
  | load (id : Uuid) : Request Registered
  | find (url : String) : Request Registered
  | list (kind : Option Kind) : Request (List Registered)
  | clustersOf (identity : Uuid) : Request (List Registered)

namespace Service

def serve (s : Service) (who : Caller) : Request α → Registry → Except Error α × Registry
  | .save c => s.save who c
  | .delete id => s.delete who id
  | .link identity url ignoreExisting => s.link who identity url ignoreExisting
  | .unlink identity url => s.unlink who identity url
  | .load id => Service.load id
  | .find url => Service.find url
  | .list kind => Service.list kind
  | .clustersOf identity => Service.clustersOf identity

end Service

/-- The work of a request that is a change, unless the change makes no sense. -/
def Request.work? : Request α → Option (Except Error (Work Unit α))
  | .save c => some (c.normalize.map Service.saveWork)
  | .delete id => some (.ok (Service.deleteWork id))
  | .link identity url ignoreExisting =>
    some (.ok (Service.linkWork identity (withSlash url) ignoreExisting))
  | .unlink identity url => some (.ok (Service.unlinkWork identity (withSlash url)))
  | .load _ | .find _ | .list _ | .clustersOf _ => none

namespace Service

theorem serve_of_change {q : Request α} {w : Except Error (Work Unit α)} (h : q.work? = some w)
    (s : Service) (who : Caller) : ∃ what, s.serve who q = s.change who what w := by
  cases q <;> cases h <;> exact ⟨_, rfl⟩

theorem serve_of_look {q : Request α} (h : q.work? = none) (s : Service) (who : Caller)
    (r : Registry) :
    ∃ (β : Type) (c : Call β), c.writes = false ∧ (s.serve who q r).2 = (r.call c).2 := by
  cases q with
  | save _ | delete _ | link _ _ _ | unlink _ _ => cases h
  | load id => exact ⟨_, .load id, rfl, rfl⟩
  | find url => exact ⟨_, .find (withSlash url), rfl, rfl⟩
  | list kind => exact ⟨_, .list kind, rfl, rfl⟩
  | clustersOf identity => exact ⟨_, .clustersOf identity, rfl, rfl⟩

/-- **A request does nothing to the registry, or executes its work, or makes one call that
    changes no tables.** -/
theorem serve_cases (s : Service) (who : Caller) (q : Request α) (r : Registry) :
    (s.serve who q r).2 = r ∨
      (∃ w, q.work? = some (.ok w) ∧ s.serve who q r = r.execute s.terms w) ∨
      ∃ (β : Type) (c : Call β), c.writes = false ∧ (s.serve who q r).2 = (r.call c).2 := by
  cases hq : q.work? with
  | none => exact .inr (.inr (serve_of_look hq s who r))
  | some w =>
    obtain ⟨what, hserve⟩ := serve_of_change hq s who
    simp only [hserve, Service.change]
    cases s.policy.authorize who what with
    | error e => exact .inl rfl
    | ok _ =>
      cases w with
      | error e => exact .inl rfl
      | ok w => exact .inr (.inl ⟨w, rfl, rfl⟩)

end Service

end Fleet
