/-
  Fleet/Watch.lean
  ================
  **Following the changes of the cluster file.**

  The file system sends notices about everything in the directory of the file.  The loop takes
  the first notice that comes, waits for a moment, and takes the others one by one until none is
  left; if one of this burst says that the file was created, modified or removed, the file is
  loaded and its snapshot synced.  When it was removed the loop rests once more before that, since
  a file is often replaced by being removed and made again.

  A cycle whose loading or sync fails is given up, and the loop goes on waiting (`cycle`).
-/
import Fleet.Config.Source
import Fleet.Sync

namespace Fleet.Watch

open Fleet.Config

/-! ### The loop -/

inductive Change where
  | created | modified | removed
  /-- Nothing that changed it. -/
  | other
deriving DecidableEq, Repr

inductive Notice where
  /-- Something happened to the files with these names. -/
  | change (what : Change) (files : List String)
  | failure
deriving DecidableEq, Repr

/-- Whether a notice says that the file was created, modified or removed. -/
def Notice.concerns (file : String) : Notice → Bool
  | .change what files => decide (what ≠ .other) && files.contains file
  | .failure => false

/-- Whether a notice says that the file was removed. -/
def Notice.removes (file : String) : Notice → Bool
  | .change what files => decide (what = .removed) && files.contains file
  | .failure => false

inductive Phase where
  | waiting
  /-- It has taken the first notice of a burst and lets others come. -/
  | gathering (first : Notice)
  /-- It has taken these notices of the burst, and takes the others one by one. -/
  | draining (burst : List Notice)
  /-- It rests, for the file was removed. -/
  | resting
  | ready
  | loading
deriving DecidableEq, Repr

/-- The loop, with the notices that it has not taken yet. -/
structure Loop where
  file : String
  queue : List Notice
  phase : Phase
deriving DecidableEq, Repr

namespace Loop

def start (file : String) : Loop := ⟨file, [], .waiting⟩

def deliver (l : Loop) (n : Notice) : Loop := { l with queue := l.queue ++ [n] }

def judge (file : String) (burst : List Notice) : Phase :=
  if burst.any (·.concerns file) then
    if burst.any (·.removes file) then .resting else .ready
  else .waiting

/-- The next step of the loop itself, if it does not have to wait for a notice. -/
def advance? (l : Loop) : Option Loop :=
  match l.phase with
  | .waiting =>
    match l.queue with
    | [] => none
    | n :: q => some { l with queue := q, phase := .gathering n }
  | .gathering n => some { l with phase := .draining [n] }
  | .draining burst =>
    match l.queue with
    | [] => some { l with phase := judge l.file burst }
    | n :: q => some { l with queue := q, phase := .draining (burst ++ [n]) }
  | .resting => some { l with phase := .ready }
  | .ready => some { l with phase := .loading }
  | .loading => some { l with phase := .waiting }

/-- How many steps the loop can make at most before it waits for a notice. -/
def steps (l : Loop) : Nat :=
  6 * l.queue.length +
    match l.phase with
    | .waiting => 0
    | .loading => 1
    | .ready => 2
    | .resting => 3
    | .draining _ => 4
    | .gathering _ => 5

theorem steps_advance? {l l' : Loop} (h : l.advance? = some l') : l'.steps < l.steps := by
  obtain ⟨file, queue, phase⟩ := l
  cases phase with
  | waiting =>
    cases queue with
    | nil => simp [advance?] at h
    | cons n q =>
      simp only [advance?, Option.some.injEq] at h
      subst h
      simp only [steps, List.length_cons]
      omega
  | draining burst =>
    cases queue with
    | nil =>
      simp only [advance?, Option.some.injEq] at h
      subst h
      by_cases hc : burst.any (·.concerns file) <;> by_cases hr : burst.any (·.removes file) <;>
        simp [steps, judge, hc, hr]
    | cons n q =>
      simp only [advance?, Option.some.injEq] at h
      subst h
      simp only [steps, List.length_cons]
      omega
  | gathering n | resting | ready | loading =>
    simp only [advance?, Option.some.injEq] at h
    subst h
    simp only [steps]
    omega

end Loop

/-! ### Cycles -/

structure State where
  source : Source
  registry : Registry
  reloads : Nat

/-- Loads the file, and syncs its snapshot if it loads. -/
def cycle (terms : Terms) (f : File) (s : State) : State :=
  match s.source.reload f with
  | (.error _, source) => { s with source }
  | (.ok snapshot, source) =>
    match s.registry.sync terms snapshot with
    | (.error _, registry) => { s with source, registry }
    | (.ok _, registry) => { source, registry, reloads := s.reloads + 1 }

/-- Lets the loop go on until it waits for a notice. -/
def settle (terms : Terms) (f : File) (l : Loop) (s : State) : Loop × State :=
  match _h : l.advance? with
  | none => (l, s)
  | some l' => settle terms f l' (if l.phase = .ready then cycle terms f s else s)
termination_by l.steps
decreasing_by exact Loop.steps_advance? ‹_›

end Fleet.Watch
