/-
  Fleet/Proofs/Watch/Notices.lean
  ===============================
  **No notice is lost.**

  Notices can arrive at any point: while the loop waits, while it lets a burst gather or takes the
  notices one by one, while it rests, and while it loads and syncs the file.  A reason to load the
  file, once there is one, is first in the queue, then in the burst that has been taken, and then in
  the phase that the judgement of the burst leads to (`Loop.pending`).  No step drops it but the one
  that starts a reload (`Loop.advance?_cases`).

  So along every run each notice that concerns the file is followed by a reload that starts after it,
  by the time that the loop waits with nothing in its queue (`Run.followed_or_pending`).  Conversely
  no reload starts without a burst in which something concerns the file (`Run.reason`).
-/
import Fleet.Proofs.Watch.Rejection

namespace Fleet.Watch

open Fleet.Config

/-! ### Runs -/

/-- What can be told of a run of the loop. -/
inductive Event where
  | arrives (n : Notice)
  /-- The loop decides what a burst asks for. -/
  | judges (burst : List Notice)
  /-- The loop starts to load the file and to sync its snapshot. -/
  | reloads (t : Turn)

namespace Event

def arrival? : Event → Option Notice
  | arrives n => some n
  | _ => none

def burst? : Event → Option (List Notice)
  | judges burst => some burst
  | _ => none

def reload? : Event → Option Turn
  | reloads t => some t
  | _ => none

/-- Whether a notice arrives that says that the file was created, modified or removed. -/
def concerns (file : String) (e : Event) : Bool := e.arrival?.any (·.concerns file)

end Event

/-- The notices that are taken, and not judged yet. -/
def Phase.taken : Phase → List Notice
  | .gathering n => [n]
  | .draining burst => burst
  | _ => []

namespace Loop

/-- The burst that the next step of the loop judges. -/
def judged? : Loop → Option (List Notice)
  | ⟨_, [], .draining burst⟩ => some burst
  | _ => none

/-- The notices that have arrived and are not judged yet. -/
def unjudged (l : Loop) : List Notice := l.phase.taken ++ l.queue

/-- Whether there is reason for a reload that has not started yet. -/
def pending (l : Loop) : Bool :=
  match l.phase with
  | .resting | .ready => true
  | _ => l.unjudged.any (·.concerns l.file)

end Loop

/-- What has happened to a loop since it was started for a file, in any order of arrivals and of its
    own steps, with what has become of the loop and of the state that it works on. -/
inductive Run (terms : Terms) (file : String) (s₀ : State) : List Event → Loop → State → Prop where
  | start : Run terms file s₀ [] (.start file) s₀
  | arrive {es : List Event} {l : Loop} {s : State} (n : Notice) : Run terms file s₀ es l s →
      Run terms file s₀ (es ++ [.arrives n]) (l.deliver n) s
  | step {es : List Event} {l l' : Loop} {s : State} : Run terms file s₀ es l s →
      l.advance? = some l' → l.phase ≠ .ready →
      Run terms file s₀ (es ++ l.judged?.toList.map .judges) l' s
  | reload {es : List Event} {l l' : Loop} {s : State} (t : Turn) : Run terms file s₀ es l s →
      l.advance? = some l' → l.phase = .ready →
      Run terms file s₀ (es ++ [.reloads t]) l' (cycleAs t.work terms t.file s)

variable {terms : Terms} {file : String} {s₀ s : State} {l l' : Loop} {es pre post : List Event}
  {t : Turn} {n : Notice} {f : File}

/-! ### One step -/

namespace Loop

/-- A step that judges nothing. -/
structure Passes (l l' : Loop) : Prop where
  judged : l.judged? = none
  file : l'.file = l.file
  unjudged : l'.unjudged = l.unjudged
  pending : l'.pending = l.pending
  resting : l'.phase ≠ .resting
  ready : l'.phase = .ready → l.phase = .resting

/-- A step that judges a burst. -/
structure Judges (burst : List Notice) (l l' : Loop) : Prop where
  judged : l.judged? = some burst
  unjudged : l.unjudged = burst
  pending : l.pending = burst.any (·.concerns l.file)
  after : l' = ⟨l.file, [], judge l.file burst⟩

/-- What a step other than the start of a reload does. -/
theorem advance?_cases (h : l.advance? = some l') (hready : l.phase ≠ .ready) :
    Passes l l' ∨ ∃ burst, Judges burst l l' := by
  obtain ⟨file, queue, phase⟩ := l
  cases phase with
  | waiting =>
    cases queue with
    | nil => simp [advance?] at h
    | cons n q =>
      simp only [advance?, Option.some.injEq] at h
      subst h
      exact .inl ⟨rfl, rfl, rfl, rfl, by simp, by simp⟩
  | gathering n =>
    simp only [advance?, Option.some.injEq] at h
    subst h
    exact .inl ⟨by cases queue <;> rfl, rfl, rfl, rfl, by simp, by simp⟩
  | draining burst =>
    cases queue with
    | nil =>
      simp only [advance?, Option.some.injEq] at h
      exact .inr ⟨burst, rfl, List.append_nil burst, by simp [pending, unjudged, Phase.taken], h.symm⟩
    | cons n q =>
      simp only [advance?, Option.some.injEq] at h
      subst h
      refine .inl ⟨rfl, rfl, ?_, ?_, by simp, by simp⟩
      · simp [unjudged, Phase.taken]
      · simp [pending, unjudged, Phase.taken]
  | resting | loading =>
    simp only [advance?, Option.some.injEq] at h
    subst h
    exact .inl ⟨by cases queue <;> rfl, rfl, rfl, rfl, by simp, by simp⟩
  | ready => exact absurd rfl hready

theorem judged?_of_ready (hready : l.phase = .ready) : l.judged? = none := by
  obtain ⟨file, queue, phase⟩ := l
  subst hready
  cases queue <;> rfl

theorem advance?_of_ready (h : l.advance? = some l') (hready : l.phase = .ready) :
    l' = { l with phase := .loading } := by
  simp only [advance?, hready, Option.some.injEq] at h
  exact h.symm

theorem unjudged_judge (burst : List Notice) : unjudged ⟨file, [], judge file burst⟩ = [] := by
  by_cases hconcerns : burst.any (·.concerns file) = true <;>
    by_cases hremoves : burst.any (·.removes file) = true <;>
    simp [unjudged, Phase.taken, judge, hconcerns, hremoves]

/-- A burst leads to a reload exactly if it holds a notice that concerns the file. -/
theorem pending_judge (burst : List Notice) :
    pending ⟨file, [], judge file burst⟩ = burst.any (·.concerns file) := by
  by_cases hconcerns : burst.any (·.concerns file) = true <;>
    by_cases hremoves : burst.any (·.removes file) = true <;>
    simp [pending, unjudged, Phase.taken, judge, hconcerns, hremoves]

/-- **No step drops a reason for a reload** but the one that starts a reload. -/
theorem pending_advance? (h : l.advance? = some l') (hready : l.phase ≠ .ready) :
    l'.pending = l.pending := by
  rcases advance?_cases h hready with hpasses | ⟨burst, hjudges⟩
  · exact hpasses.pending
  · rw [hjudges.pending, hjudges.after, pending_judge]

theorem file_advance? (h : l.advance? = some l') : l'.file = l.file := by
  by_cases hready : l.phase = .ready
  · rw [advance?_of_ready h hready]
  · rcases advance?_cases h hready with hpasses | ⟨burst, hjudges⟩
    · exact hpasses.file
    · rw [hjudges.after]

/-- A step judges a burst, or all notices that had yet to be judged still have. -/
theorem unjudged_advance? (h : l.advance? = some l') :
    l.judged?.getD [] ++ l'.unjudged = l.unjudged := by
  by_cases hready : l.phase = .ready
  · rw [advance?_of_ready h hready]
    simp [judged?_of_ready hready, unjudged, Phase.taken, hready]
  · rcases advance?_cases h hready with hpasses | ⟨burst, hjudges⟩
    · rw [hpasses.judged, hpasses.unjudged]
      rfl
    · rw [hjudges.judged, hjudges.unjudged, hjudges.after, unjudged_judge]
      exact List.append_nil burst

theorem pending_deliver (n : Notice) : (l.deliver n).pending = (l.pending || n.concerns l.file) := by
  obtain ⟨file, queue, phase⟩ := l
  cases phase <;> simp [pending, deliver, unjudged, Phase.taken, Bool.or_assoc]

theorem pending_of_waiting (hwaiting : l.phase = .waiting) (hqueue : l.queue = []) :
    l.pending = false := by
  simp [pending, unjudged, Phase.taken, hwaiting, hqueue]

end Loop

/-! ### All steps -/

/-- Every notice that concerns the file is followed by the start of the last reload. -/
def Followed (file : String) (es : List Event) : Prop :=
  (∀ e ∈ es, e.concerns file = false) ∨
    ∃ pre t post, es = pre ++ .reloads t :: post ∧
      ∀ e ∈ post, e.reload? = none ∧ e.concerns file = false

theorem followed_reload (es : List Event) (t : Turn) : Followed file (es ++ [.reloads t]) :=
  .inr ⟨es, t, [], rfl, by simp⟩

theorem Followed.append (h : Followed file es)
    (hpost : ∀ e ∈ post, e.reload? = none ∧ e.concerns file = false) : Followed file (es ++ post) := by
  rcases h with hnone | ⟨pre, t, mid, rfl, hmid⟩
  · refine .inl fun e he => ?_
    rcases List.mem_append.1 he with he | he
    · exact hnone e he
    · exact (hpost e he).2
  · refine .inr ⟨pre, t, mid ++ post, by simp, fun e he => ?_⟩
    rcases List.mem_append.1 he with he | he
    · exact hmid e he
    · exact hpost e he

/-- There is reason for a reload: the last burst that was judged holds a notice that concerns the
    file, and since then nothing has happened but that notices have arrived. -/
def Reason (file : String) (es : List Event) : Prop :=
  ∃ pre burst post, es = pre ++ .judges burst :: post ∧ burst.any (·.concerns file) = true ∧
    ∀ e ∈ post, e.arrival?.isSome

namespace Run

theorem file_eq (h : Run terms file s₀ es l s) : l.file = file := by
  induction h with
  | start => rfl
  | arrive n _ ih => exact ih
  | step _ hstep _ ih => exact (Loop.file_advance? hstep).trans ih
  | reload t _ hstep _ ih => exact (Loop.file_advance? hstep).trans ih

/-- Every notice that has arrived is in one of the bursts, in their order, or has yet to be
    judged. -/
theorem arrivals (h : Run terms file s₀ es l s) :
    es.filterMap Event.arrival? = (es.filterMap Event.burst?).flatten ++ l.unjudged := by
  induction h with
  | start => rfl
  | arrive n _ ih => simp [Event.arrival?, Event.burst?, ih, Loop.unjudged, Loop.deliver]
  | @step es l l' s _ hstep _ ih =>
    rw [List.filterMap_append, ih, ← Loop.unjudged_advance? hstep]
    cases l.judged? <;> simp [Event.arrival?, Event.burst?]
  | reload t _ hstep hready ih =>
    rw [Loop.advance?_of_ready hstep hready]
    simp [List.filterMap_cons, Event.arrival?, Event.burst?, ih, Loop.unjudged, Phase.taken, hready]

/-- **A notice that concerns the file has been followed by a reload, or is reason for one.** -/
theorem followed_or_pending (h : Run terms file s₀ es l s) :
    Followed file es ∨ l.pending = true := by
  induction h with
  | start => exact .inl (.inl (by simp))
  | @arrive es l s n hrun ih =>
    rw [Loop.pending_deliver, hrun.file_eq]
    cases hconcerns : n.concerns file with
    | true => exact .inr (Bool.or_true _)
    | false =>
      rw [Bool.or_false]
      refine ih.imp_left fun hfollowed => hfollowed.append ?_
      simp [Event.reload?, Event.concerns, Event.arrival?, hconcerns]
  | step _ hstep hready ih =>
    rw [Loop.pending_advance? hstep hready]
    refine ih.imp_left fun hfollowed => hfollowed.append ?_
    simp [Event.reload?, Event.concerns, Event.arrival?]
  | reload t _ _ _ _ => exact .inl (followed_reload _ t)

/-- **A loop that is about to start a reload has reason for it.** -/
theorem reason (h : Run terms file s₀ es l s) (hphase : l.phase = .resting ∨ l.phase = .ready) :
    Reason file es := by
  induction h with
  | start => simp [Loop.start] at hphase
  | @arrive es l s n _ ih =>
    obtain ⟨pre, burst, post, rfl, hconcerns, hpost⟩ := ih hphase
    refine ⟨pre, burst, post ++ [.arrives n], by simp, hconcerns, fun e he => ?_⟩
    rcases List.mem_append.1 he with he | he
    · exact hpost e he
    · rw [List.mem_singleton.1 he]
      rfl
  | @step es l l' s hrun hstep hready ih =>
    rcases Loop.advance?_cases hstep hready with hpasses | ⟨burst, hjudges⟩
    · rw [hpasses.judged]
      simpa using ih (.inl (hpasses.ready (hphase.resolve_left hpasses.resting)))
    · -- whatever the judgement leads to is no reload, unless something concerns the file
      refine ⟨es, burst, [], by simp [hjudges.judged], ?_, by simp⟩
      rw [← hrun.file_eq, ← Loop.pending_judge, ← hjudges.after]
      rcases hphase with hphase | hphase <;> simp [Loop.pending, hphase]
  | reload t _ hstep hready _ =>
    rw [Loop.advance?_of_ready hstep hready] at hphase
    simp at hphase

/-- A reload starts when the loop is ready for it. -/
theorem ready_of_reload (h : Run terms file s₀ es l s) (hpre : pre ++ [.reloads t] <+: es) :
    ∃ l s, Run terms file s₀ pre l s ∧ l.phase = .ready := by
  induction h with
  | start => simp at hpre
  | arrive n _ ih =>
    rcases List.prefix_concat_iff.1 hpre with heq | hpre
    · exact absurd (List.append_inj' heq rfl).2 (by simp)
    · exact ih hpre
  | @step es l l' s _ _ _ ih =>
    cases hjudged : l.judged? with
    | none =>
      rw [hjudged] at hpre
      exact ih (by simpa using hpre)
    | some burst =>
      rw [hjudged] at hpre
      rcases List.prefix_concat_iff.1 hpre with heq | hpre
      · exact absurd (List.append_inj' heq rfl).2 (by simp)
      · exact ih hpre
  | @reload es l l' s t' hrun _ hready ih =>
    rcases List.prefix_concat_iff.1 hpre with heq | hpre
    · obtain ⟨rfl, -⟩ := List.append_inj' heq rfl
      exact ⟨l, s, hrun, hready⟩
    · exact ih hpre

/-- The state is what the reloads have made of it. -/
theorem state_eq (h : Run terms file s₀ es l s) : s = cycles terms (es.filterMap Event.reload?) s₀ := by
  induction h with
  | start => rfl
  | arrive n _ ih => simpa [List.filterMap_cons, Event.reload?] using ih
  | @step es l l' s _ _ _ ih => cases l.judged? <;> simpa [List.filterMap_cons, Event.reload?] using ih
  | reload t _ _ _ ih => simp [cycles, Event.reload?, ih]

end Run

/-! ### Coming to rest -/

/-- The loop has nothing to do only if it waits with nothing in its queue. -/
theorem Loop.waits_of_advance?_eq_none (h : l.advance? = none) : l.phase = .waiting ∧ l.queue = [] := by
  obtain ⟨file, queue, phase⟩ := l
  cases phase with
  | waiting =>
    cases queue with
    | nil => exact ⟨rfl, rfl⟩
    | cons n q => simp [Loop.advance?] at h
  | draining burst => cases queue <;> simp [Loop.advance?] at h
  | gathering _ | resting | ready | loading => simp [Loop.advance?] at h

theorem settle_waits (terms : Terms) (f : File) (l : Loop) (s : State) :
    (settle terms f l s).1.phase = .waiting ∧ (settle terms f l s).1.queue = [] := by
  fun_induction settle terms f l s with
  | case1 l s hstep => exact Loop.waits_of_advance?_eq_none hstep
  | case2 l s l' _ ih => exact ih

/-- To let the loop go on is one way for a run to go on. -/
theorem Run.settle (h : Run terms file s₀ es l s) (f : File) :
    ∃ own, (∀ e ∈ own, e.arrival? = none) ∧
      Run terms file s₀ (es ++ own) (settle terms f l s).1 (settle terms f l s).2 := by
  fun_induction Watch.settle terms f l s generalizing es with
  | case1 l s _ => exact ⟨[], by simp, by simpa using h⟩
  | case2 l s l' hstep ih =>
    by_cases hready : l.phase = .ready
    · simp only [hready, ite_true] at ih ⊢
      obtain ⟨own, hown, hrun⟩ := ih (h.reload (.ofFile f) hstep hready)
      exact ⟨.reloads (.ofFile f) :: own, by simpa [Event.arrival?] using hown, by simpa using hrun⟩
    · simp only [hready, ite_false] at ih ⊢
      obtain ⟨own, hown, hrun⟩ := ih (h.step hstep hready)
      refine ⟨l.judged?.toList.map .judges ++ own, fun e he => ?_, by simpa using hrun⟩
      rcases List.mem_append.1 he with he | he
      · obtain ⟨burst, -, rfl⟩ := List.mem_map.1 he
        rfl
      · exact hown e he

/-! ### Nothing is lost -/

/-- What has become of all that the loop was told, at any time. -/
structure Heard (terms : Terms) (file : String) (s₀ : State) (es : List Event) (l : Loop)
    (s : State) : Prop where
  /-- Each notice is in one burst, or has yet to be judged. -/
  arrivals : es.filterMap Event.arrival? = (es.filterMap Event.burst?).flatten ++ l.unjudged
  /-- When the loop waits with nothing in its queue, the last reload has started after the last
      notice that concerned the file. -/
  followed : l.phase = .waiting → l.queue = [] → Followed file es
  /-- No reload starts because of other notices. -/
  reason : ∀ pre t, pre ++ [.reloads t] <+: es → Reason file pre
  state : s = cycles terms (es.filterMap Event.reload?) s₀
  /-- If no more notices arrive the loop comes to wait with nothing in its queue. -/
  settles : ∀ f, ∃ own, (∀ e ∈ own, e.arrival? = none) ∧
    Run terms file s₀ (es ++ own) (settle terms f l s).1 (settle terms f l s).2 ∧
    (settle terms f l s).1.phase = .waiting ∧ (settle terms f l s).1.queue = []

/-- **No notice is lost, and none is made up**, in whatever order notices arrive and the loop makes
    its steps, and whatever becomes of the reloads. -/
theorem Run.heard (h : Run terms file s₀ es l s) : Heard terms file s₀ es l s where
  arrivals := h.arrivals
  followed hwaiting hqueue := by
    refine h.followed_or_pending.resolve_right ?_
    simp [Loop.pending_of_waiting hwaiting hqueue]
  reason pre t hpre := by
    obtain ⟨l, s, hrun, hready⟩ := h.ready_of_reload hpre
    exact hrun.reason (.inr hready)
  state := h.state_eq
  settles f := by
    obtain ⟨own, hown, hrun⟩ := h.settle f
    exact ⟨own, hown, hrun, settle_waits terms f l s⟩

/-- Two bursts that ask for a reload come after one that does not, and of the second the first
    notice arrives while the loop rests and the other one while it loads. -/
theorem watching_heard :
    ∃ es s, Run Context.halfMinute "a" (watching 0 Uuid.numbered) es (.start "a") s ∧
      Heard Context.halfMinute "a" (watching 0 Uuid.numbered) es (.start "a") s ∧
      es.filterMap Event.burst? = [[.failure, .change .modified ["b"]],
        [.change .removed ["b", "a"], .change .other ["a"]],
        [.change .created ["a"], .change .modified ["a"]]] ∧
      (es.filterMap Event.reload?).length = 2 := by
  have hstart : Run Context.halfMinute "a" (watching 0 Uuid.numbered) [] _ _ := .start
  have hfirst := hstart.arrive .failure |>.step rfl (by decide)
    |>.arrive (.change .modified ["b"]) |>.step rfl (by decide) |>.step rfl (by decide)
    |>.step rfl (by decide)
  have hsecond := hfirst.arrive (.change .removed ["b", "a"]) |>.step rfl (by decide)
    |>.step rfl (by decide) |>.arrive (.change .other ["a"]) |>.step rfl (by decide)
    |>.step rfl (by decide) |>.arrive (.change .created ["a"]) |>.step rfl (by decide)
    |>.reload (.ofFile .absent) rfl rfl
  have hthird := hsecond.arrive (.change .modified ["a"]) |>.step rfl (by decide)
    |>.step rfl (by decide) |>.step rfl (by decide) |>.step rfl (by decide) |>.step rfl (by decide)
    |>.reload (.ofFile .bytes) rfl rfl |>.step rfl (by decide)
  exact ⟨_, _, hthird, hthird.heard, rfl, rfl⟩

end Fleet.Watch
