/-
  Fleet/Proofs/Watch/Cycles.lean
  ==============================
  **What a cycle changes.**

  A cycle can fail in two places.  When the file does not load, nothing happens at all.  When
  it loads and its snapshot cannot be synced, the tables and the count stay what they were, but
  the source has the new snapshot by then and keeps it.  So a failed cycle leaves everything as
  it was exactly if the file does not load or says again what the source has (`Cycled`).

  Over any number of cycles the snapshot is therefore that of the last file that loaded,
  whatever became of its sync (`source_cycles`).
-/
import Fleet.Proofs.Service.NormalForm
import Fleet.Proofs.Service.Validity
import Fleet.Proofs.Sync.AllOrNothing
import Fleet.Watch

namespace Fleet.Watch

open Fleet.Config Fleet.Store Fleet.Sync

variable {terms : Terms} {f : File} {work : Snapshot → Work Unit SyncReport} {s s' : State}

/-! ### One cycle -/

/-- A cycle in which the sync of a snapshot runs as some other unit of work, as when it is late. -/
def cycleAs (work : Snapshot → Work Unit SyncReport) (terms : Terms) (f : File) (s : State) : State :=
  match s.source.reload f with
  | (.error _, source) => { s with source }
  | (.ok snapshot, source) =>
    match s.registry.execute terms (work snapshot) with
    | (.error _, registry) => { s with source, registry }
    | (.ok _, registry) => { source, registry, reloads := s.reloads + 1 }

theorem cycle_eq_cycleAs : cycle = cycleAs Sync.work := rfl

/-- Nothing that a cycle is about has changed. -/
structure Still (s s' : State) : Prop where
  snapshot : s'.source.snapshot = s.source.snapshot
  rows : s'.registry.database.tables.rows = s.registry.database.tables.rows
  links : s'.registry.database.tables.links = s.registry.database.tables.links
  reloads : s'.reloads = s.reloads

theorem cycleAs_of_load_error {e : Config.Fault} (h : f.load s.source.path = .error e) :
    cycleAs work terms f s = s := by
  simp only [cycleAs, Source.reload, h]

theorem cycleAs_of_sync_error {x : Snapshot} {e : Error} {r : Registry}
    (h : f.load s.source.path = .ok x) (hsync : s.registry.execute terms (work x) = (.error e, r)) :
    cycleAs work terms f s = ⟨⟨s.source.path, x⟩, r, s.reloads⟩ := by
  simp only [cycleAs, Source.reload, h, hsync]

theorem cycleAs_of_sync_ok {x : Snapshot} {rep : SyncReport} {r : Registry}
    (h : f.load s.source.path = .ok x) (hsync : s.registry.execute terms (work x) = (.ok rep, r)) :
    cycleAs work terms f s = ⟨⟨s.source.path, x⟩, r, s.reloads + 1⟩ := by
  simp only [cycleAs, Source.reload, h, hsync]

/-- What a cycle whose syncs run as `work` does to a state. -/
structure Cycled (work : Snapshot → Work Unit SyncReport) (terms : Terms) (f : File)
    (s s' : State) : Prop where
  /-- The file does not load. -/
  unloaded : ∀ e, f.load s.source.path = .error e → s' = s
  /-- The file loads, and its snapshot cannot be synced: what the sync has written is undone. -/
  unsynced : ∀ x e r, f.load s.source.path = .ok x →
    s.registry.execute terms (work x) = (.error e, r) →
      s' = ⟨⟨s.source.path, x⟩, r, s.reloads⟩ ∧
        r.database.tables = s.registry.database.tables ∧
        Failure terms s.registry x (work x) e
  /-- Nothing fails. -/
  synced : ∀ x rep r, f.load s.source.path = .ok x →
    s.registry.execute terms (work x) = (.ok rep, r) →
      s' = ⟨⟨s.source.path, x⟩, r, s.reloads + 1⟩ ∧ (s.registry.database.tables.Keyed →
        Synced (fun u => ∃ k, s.registry.drawn ≤ k ∧ k < r.drawn ∧ u = s.registry.ids k)
          x.definitions s.registry.database.tables r.database.tables)
  /-- A cycle counts if and only if nothing failed. -/
  counts : s'.reloads = s.reloads + 1 ↔ ∃ x rep r, f.load s.source.path = .ok x ∧
    s.registry.execute terms (work x) = (.ok rep, r)
  /-- When a cycle that failed has changed nothing. -/
  still_iff : s'.reloads ≠ s.reloads + 1 →
    (Still s s' ↔ ∀ x, f.load s.source.path = .ok x → x = s.source.snapshot)

/-- The three ways in which a cycle can go. -/
theorem cycleAs_cases (work : Snapshot → Work Unit SyncReport) (terms : Terms) (f : File) (s : State) :
    (∃ e, f.load s.source.path = .error e ∧ cycleAs work terms f s = s) ∨
      (∃ x e r, f.load s.source.path = .ok x ∧
        s.registry.execute terms (work x) = (.error e, r) ∧
        cycleAs work terms f s = ⟨⟨s.source.path, x⟩, r, s.reloads⟩) ∨
      ∃ x rep r, f.load s.source.path = .ok x ∧
        s.registry.execute terms (work x) = (.ok rep, r) ∧
        cycleAs work terms f s = ⟨⟨s.source.path, x⟩, r, s.reloads + 1⟩ := by
  cases h : f.load s.source.path with
  | error e => exact .inl ⟨e, rfl, cycleAs_of_load_error h⟩
  | ok x =>
    rcases hsync : s.registry.execute terms (work x) with ⟨e | rep, r⟩
    · exact .inr (.inl ⟨x, e, r, rfl, hsync, cycleAs_of_sync_error h hsync⟩)
    · exact .inr (.inr ⟨x, rep, r, rfl, hsync, cycleAs_of_sync_ok h hsync⟩)

theorem counts_iff : (cycleAs work terms f s).reloads = s.reloads + 1 ↔
    ∃ x rep r, f.load s.source.path = .ok x ∧
      s.registry.execute terms (work x) = (.ok rep, r) := by
  constructor
  · intro hcount
    rcases cycleAs_cases work terms f s with ⟨e, -, hcycle⟩ | ⟨x, e, r, -, -, hcycle⟩ |
      ⟨x, rep, r, hload, hsync, -⟩
    · rw [hcycle] at hcount
      exact absurd hcount (Nat.lt_succ_self _).ne
    · rw [hcycle] at hcount
      exact absurd hcount (Nat.lt_succ_self _).ne
    · exact ⟨x, rep, r, hload, hsync⟩
  · rintro ⟨x, rep, r, hload, hsync⟩
    rw [cycleAs_of_sync_ok hload hsync]

/-- A cycle that failed has changed the snapshot or nothing. -/
theorem still_iff_of_failed (hwork : ∀ x, Work.Delayed (Sync.work x) (work x))
    (hfailed : (cycleAs work terms f s).reloads ≠ s.reloads + 1) :
    Still s (cycleAs work terms f s) ↔
      ∀ x, f.load s.source.path = .ok x → x = s.source.snapshot := by
  rcases cycleAs_cases work terms f s with ⟨e, hload, hcycle⟩ | ⟨x, e, r, hload, hsync, hcycle⟩ |
    ⟨x, rep, r, -, -, hcycle⟩
  · rw [hcycle, hload]
    constructor
    · rintro - x ⟨⟩
    · intro _
      exact ⟨rfl, rfl, rfl, rfl⟩
  · obtain ⟨htables, -⟩ := failure_of_error (hwork x) hsync
    rw [hcycle, hload]
    constructor
    · intro hstill y hy
      cases hy
      exact hstill.snapshot
    · intro hsame
      exact ⟨hsame x rfl, congrArg Tables.rows htables, congrArg Tables.links htables, rfl⟩
  · rw [hcycle] at hfailed
    exact absurd rfl hfailed

/-- **What a cycle does to the snapshot, the tables and the count**, wherever its sync is late. -/
theorem cycle_cycled (terms : Terms) (f : File) (s : State)
    (work : Snapshot → Work Unit SyncReport)
    (hwork : ∀ x, Work.Delayed (Sync.work x) (work x)) :
    Cycled work terms f s (cycleAs work terms f s) where
  unloaded e h := cycleAs_of_load_error h
  unsynced x e r h hsync := ⟨cycleAs_of_sync_error h hsync, failure_of_error (hwork x) hsync⟩
  synced x rep r h hsync := by
    refine ⟨cycleAs_of_sync_ok h hsync, ?_⟩
    intro hk
    exact (synced_of_ok hk (hwork x) hsync).1
  counts := counts_iff
  still_iff := still_iff_of_failed hwork

/-! ### Many cycles -/

/-- A cycle over a file, in which the sync of a snapshot runs as some unit of work. -/
structure Turn where
  file : File
  work : Snapshot → Work Unit SyncReport

def Turn.ofFile (f : File) : Turn := ⟨f, Sync.work⟩

/-- One cycle after another. -/
def cycles (terms : Terms) (turns : List Turn) (s : State) : State :=
  turns.foldl (fun s t => cycleAs t.work terms t.file s) s

theorem cycles_cons (t : Turn) (turns : List Turn) (s : State) :
    cycles terms (t :: turns) s = cycles terms turns (cycleAs t.work terms t.file s) := rfl

/-- The source keeps its path, and its snapshot unless the file loads. -/
theorem source_cycleAs (work : Snapshot → Work Unit SyncReport) (terms : Terms) (f : File)
    (s : State) : (cycleAs work terms f s).source =
      ⟨s.source.path, (f.load s.source.path).toOption.getD s.source.snapshot⟩ := by
  rcases cycleAs_cases work terms f s with ⟨e, hload, hcycle⟩ | ⟨x, e, r, hload, -, hcycle⟩ |
    ⟨x, rep, r, hload, -, hcycle⟩ <;>
  · rw [hcycle, hload]
    rfl

/-- **The source has the snapshot of the last file that loaded**, whatever became of the syncs. -/
theorem source_cycles (terms : Terms) (turns : List Turn) (s : State) :
    (cycles terms turns s).source = ⟨s.source.path,
      ((turns.filterMap fun t => (t.file.load s.source.path).toOption).getLast?).getD
        s.source.snapshot⟩ := by
  induction turns generalizing s with
  | nil => rfl
  | cons t turns ih =>
    rw [cycles_cons, ih, source_cycleAs]
    cases hload : t.file.load s.source.path with
    | error e =>
      rw [List.filterMap_cons_none]
      · rfl
      · rw [hload]
        rfl
    | ok x =>
      rw [List.filterMap_cons_some (b := x), List.getLast?_cons]
      · rfl
      · rw [hload]
        rfl

/-- Until it waits for a notice the loop goes through some number of cycles over its file. -/
theorem settle_eq_iterate (terms : Terms) (f : File) (l : Loop) (s : State) :
    ∃ n, (settle terms f l s).2 = (cycle terms f)^[n] s := by
  fun_induction settle terms f l s with
  | case1 l s _ => exact ⟨0, rfl⟩
  | case2 l s l' _ ih =>
    obtain ⟨n, hn⟩ := ih
    by_cases hready : l.phase = .ready
    · rw [dif_pos hready] at hn
      rw [if_pos hready, hn]
      exact ⟨n + 1, (Function.iterate_succ_apply _ n s).symm⟩
    · rw [dif_neg hready] at hn
      rw [if_neg hready, hn]
      exact ⟨n, rfl⟩

/-! ### A file that loads and cannot be synced -/

/-- A registry that follows a file, in which the row of that file can no longer be given another
    name. -/
def stale : State :=
  let registry := ((Context.blank .sqlite).sync Context.halfMinute loopbackSnapshot).2
  { source := ⟨"clusters.json", loopbackSnapshot⟩
    registry := { registry with database := registry.database.setTrap ⟨.update, "a", "disk full"⟩ }
    reloads := 0 }

/-- The cluster in the file has another name now. -/
theorem load_blankFile : (File.text Registry.blankFile).load stale.source.path =
    .ok Registry.blankSnapshot :=
  Registry.ofText_blankFile

theorem sync_stale_fails :
    (stale.registry.execute Context.halfMinute (Sync.work Registry.blankSnapshot)).1.isOk = false := by
  decide +kernel

/-- **A cycle that fails can change the snapshot.** -/
theorem stale_not_still :
    ¬ ∀ terms f s, (cycle terms f s).reloads ≠ s.reloads + 1 → Still s (cycle terms f s) := by
  intro h
  rcases hsync : stale.registry.execute Context.halfMinute (Sync.work Registry.blankSnapshot) with
    ⟨e | rep, r⟩
  · have hcycle := cycleAs_of_sync_error load_blankFile hsync
    have hstill := h Context.halfMinute (.text Registry.blankFile) stale (by
      rw [cycle_eq_cycleAs, hcycle]
      exact (Nat.lt_succ_self _).ne)
    have hsame : Registry.blankSnapshot = loopbackSnapshot := by
      rw [cycle_eq_cycleAs, hcycle] at hstill
      exact hstill.snapshot
    have hnames : Registry.blankSnapshot.definitions.map (·.name) =
        loopbackSnapshot.definitions.map (·.name) := by rw [hsame]
    exact absurd hnames (by decide +kernel)
  · have hfails := sync_stale_fails
    rw [hsync] at hfails
    cases hfails

/-- The cycle with its deadline passed before the sync begins. -/
theorem stale_cycled :
    (∀ x, Work.Delayed (Sync.work x) (.awaitCancel (Sync.work x) : Work Unit SyncReport)) ∧
      Cycled (fun x => .awaitCancel (Sync.work x)) Context.halfMinute (.text Registry.blankFile) stale
        (cycleAs (fun x => .awaitCancel (Sync.work x)) Context.halfMinute (.text Registry.blankFile)
          stale) :=
  have hlate : ∀ x, Work.Delayed (Sync.work x) (.awaitCancel (Sync.work x) : Work Unit SyncReport) :=
    fun _ => .late (.refl _)
  ⟨hlate, cycle_cycled Context.halfMinute (.text Registry.blankFile) stale _ hlate⟩

end Fleet.Watch
