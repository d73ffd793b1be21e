/-
  Fleet/Proofs/Watch/Rejection.lean
  =================================
  **Files that do not load leave no trace.**

  A cycle over a file that does not load leaves the whole state as it was
  (`cycleAs_of_load_error`), the clock and the supply of identifiers included.  So the cycles over
  such files can be left out of any sequence, and the sequence comes to the same state
  (`cycles_filter`).  The snapshot in the end is the whole snapshot of the last file that loaded
  (`source_cycles`).

  Nor does it matter when and where the other cycles are run.  On another state which is the same
  but for times and for the names of new identifiers, each cycle comes to a state which is again the
  same in this sense (`State.Renamed.cycle`).
-/
import Fleet.Proofs.Sync.Renaming
import Fleet.Proofs.Watch.Cycles

namespace Fleet

open Fleet.Config Fleet.Store Fleet.Sync

namespace Config.File

/-- Whether there is a snapshot in a file at a path. -/
def loads (path : String) (f : File) : Bool := (f.load path).isOk

/-- How many definitions there are in a file, if it loads. -/
def size (path : String) (f : File) : Nat := ((f.load path).toOption.map Snapshot.size).getD 0

end Config.File

namespace Watch

variable {terms : Terms} {f : File} {work : Snapshot → Work Unit SyncReport} {s s' : State}

/-! ### Leaving cycles out -/

/-- **The cycles over files that do not load can be left out.** -/
theorem cycles_filter (terms : Terms) (turns : List Turn) (s : State) :
    cycles terms turns s = cycles terms (turns.filter (·.file.loads s.source.path)) s := by
  induction turns generalizing s with
  | nil => rfl
  | cons t turns ih =>
    rw [cycles_cons, ih, source_cycleAs]
    cases hload : t.file.load s.source.path with
    | error e =>
      rw [List.filter_cons_of_neg, cycleAs_of_load_error hload]
      simp [File.loads, hload, Except.isOk, Except.toBool]
    | ok x =>
      rw [List.filter_cons_of_pos, cycles_cons]
      simp [File.loads, hload, Except.isOk, Except.toBool]

/-! ### At another time, with other identifiers -/

/-- Two states that are the same but for times and for the names of new identifiers, with a supply
    of these. -/
structure State.Renamed (n : Nat) (new new' : Uuid → Prop) (s s' : State) : Prop where
  source : s.source = s'.source
  registry : s.registry.Renamed n new new' s'.registry
  reloads : s.reloads = s'.reloads

/-- A cycle over a file that loads syncs its snapshot, and counts if that succeeds. -/
theorem cycle_of_load {x : Snapshot} (hload : f.load s.source.path = .ok x) :
    cycle terms f s = ⟨⟨s.source.path, x⟩, (s.registry.sync terms x).2,
      s.reloads + (s.registry.sync terms x).1.toOption.toList.length⟩ := by
  rcases hsync : s.registry.sync terms x with ⟨e | rep, r⟩
  · rw [cycle_eq_cycleAs, cycleAs_of_sync_error hload hsync]
    rfl
  · rw [cycle_eq_cycleAs, cycleAs_of_sync_ok hload hsync]
    rfl

namespace State.Renamed

variable {n : Nat} {new new' : Uuid → Prop} {path : String}

/-- **A cycle comes to the same on renamings.** -/
theorem cycle (hpath : s.source.path = path) (h : s.Renamed (f.size path + n) new new' s')
    (terms : Terms) : (cycle terms f s).Renamed n new new' (cycle terms f s') := by
  subst hpath
  cases hload : f.load s.source.path with
  | error e =>
    rw [cycle_eq_cycleAs, cycleAs_of_load_error hload, cycleAs_of_load_error (h.source ▸ hload)]
    simp only [File.size, hload, Except.toOption, Option.map_none, Option.getD_none, Nat.zero_add] at h
    exact h
  | ok x =>
    have hregistry := h.registry
    simp only [File.size, hload, Except.toOption, Option.map_some, Option.getD_some] at hregistry
    obtain ⟨hreport, hregistry⟩ := hregistry.sync terms
    rw [cycle_of_load hload, cycle_of_load (h.source ▸ hload)]
    exact {
      source := by rw [h.source]
      registry := hregistry
      reloads := by rw [h.reloads, hreport] }

/-- **So do any number of cycles**, as long as the supply lasts. -/
theorem cycles {files : List File} (hpath : s.source.path = path)
    (h : s.Renamed ((files.map (·.size path)).sum + n) new new' s') (terms : Terms) :
    (cycles terms (files.map .ofFile) s).Renamed n new new' (cycles terms (files.map .ofFile) s') := by
  induction files generalizing s s' with
  | nil =>
    rw [List.map_nil, List.sum_nil, Nat.zero_add] at h
    exact h
  | cons f files ih =>
    rw [List.map_cons, List.sum_cons, Nat.add_assoc] at h
    refine ih ?_ (h.cycle hpath terms)
    rw [source_cycleAs]
    exact hpath

end State.Renamed

/-! ### No trace -/

/-- What files that do not load have to do with what becomes of a state. -/
structure Traceless (terms : Terms) (s : State) : Prop where
  /-- Nothing at all: without them the cycles come to the same state. -/
  same : ∀ turns : List Turn,
    cycles terms turns s = cycles terms (turns.filter (·.file.loads s.source.path)) s
  /-- The snapshot is that of the last file that loaded, or else the one that there was. -/
  source : ∀ turns : List Turn, (cycles terms turns s).source = ⟨s.source.path,
    ((turns.filterMap fun t => (t.file.load s.source.path).toOption).getLast?).getD s.source.snapshot⟩
  /-- Without them the cycles come to the same at another time and with other identifiers. -/
  renamed : ∀ (new new' : Uuid → Prop) (s' : State) (files : List File),
    s.Renamed ((files.map (·.size s.source.path)).sum) new new' s' →
      (cycles terms (files.map .ofFile) s).Renamed 0 new new'
        (cycles terms ((files.filter (·.loads s.source.path)).map .ofFile) s')

/-- **Files that do not load leave no trace.** -/
theorem traceless (terms : Terms) (s : State) : Traceless terms s where
  same turns := cycles_filter terms turns s
  source turns := source_cycles terms turns s
  renamed new new' s' files h := by
    have hfilter := cycles_filter terms (files.map .ofFile) s'
    rw [List.filter_map, ← h.source] at hfilter
    have hrun := State.Renamed.cycles (n := 0) rfl h terms
    rw [hfilter] at hrun
    exact hrun

/-- A state with an empty registry, at a time and with identifiers of its own. -/
def watching (time : Nat) (ids : Nat → Uuid) : State where
  source := ⟨"clusters.json", .empty⟩
  registry := { database := { Database.create .sqlite with clock := time }, ids, drawn := 0 }
  reloads := 0

theorem watching_supplies (time : Nat) (ids : Nat → Uuid) :
    (watching time ids).registry.Supplies 1 (· = ids 0) := by
  refine ⟨?_, ?_, ?_⟩
  · intro k _ hlt
    exact congrArg ids (Nat.lt_one_iff.1 hlt)
  · intro _ _ row hrow
    cases hrow
  · intro j k hjk hk
    omega

theorem watching_renamed (time time' : Nat) (ids ids' : Nat → Uuid) :
    (watching time ids).Renamed 1 (· = ids 0) (· = ids' 0) (watching time' ids') where
  source := rfl
  registry :=
    { tables := .refl _ _ Tables.empty
      backend := rfl
      traps := rfl
      keyed := Tables.keyed_empty
      keyed' := Tables.keyed_empty
      supplies := watching_supplies time ids
      supplies' := watching_supplies time' ids' }
  reloads := rfl

/-- One file that loads between two that do not, and the same file alone. -/
theorem watching_traceless :
    (watching 0 Uuid.numbered).Renamed 1 (· = Uuid.numbered 0) (· = Uuid.nil) (watching 7 fun _ => .nil) ∧
      (cycles Context.halfMinute ([File.absent, .text Registry.blankFile, .bytes].map .ofFile)
          (watching 0 Uuid.numbered)).Renamed 0 (· = Uuid.numbered 0) (· = Uuid.nil)
        (cycles Context.halfMinute (([File.absent, .text Registry.blankFile, .bytes].filter
          (·.loads "clusters.json")).map .ofFile) (watching 7 fun _ => .nil)) := by
  have hload : (File.text Registry.blankFile).load "clusters.json" = .ok Registry.blankSnapshot :=
    Registry.ofText_blankFile
  have hsize : ([File.absent, .text Registry.blankFile, .bytes].map (·.size "clusters.json")).sum = 1 := by
    simp only [File.size, hload, List.map_cons, List.map_nil]
    decide +kernel
  have hrenamed := watching_renamed 0 7 Uuid.numbered fun _ => .nil
  refine ⟨hrenamed, (traceless Context.halfMinute _).renamed _ _ _ _ ?_⟩
  change (watching 0 Uuid.numbered).Renamed
    ([File.absent, .text Registry.blankFile, .bytes].map (·.size "clusters.json")).sum _ _ _
  rw [hsize]
  exact hrenamed

end Watch

end Fleet
