/-
  Fleet/Config/Snapshot.lean
  ==========================
  **Snapshots of a cluster file.**

  A snapshot holds definitions in ascending order of their URLs, each URL once; of two
  definitions with one URL the later one counts.  A look-up does not mind blanks around the
  URL or a missing final slash.
-/
import Fleet.Cluster

namespace Fleet

open Fleet.Text

/-- The definitions of a cluster file, by URL. -/
structure Snapshot where
  definitions : List Definition
  ascending : definitions.Pairwise (fun a b => a.url < b.url) := by exact List.Pairwise.nil

namespace Snapshot

/-- Puts a definition into a list in the order of the URLs, in the place of the one with its
    URL if there is one. -/
def place (d : Definition) : List Definition → List Definition
  | [] => [d]
  | e :: r =>
    if d.url = e.url then d :: r
    else if d.url < e.url then d :: e :: r
    else e :: place d r

theorem mem_place {d e : Definition} {ds : List Definition} (h : e ∈ place d ds) :
    e = d ∨ e ∈ ds := by
  induction ds with
  | nil => simpa [place] using h
  | cons x r ih =>
    unfold place at h
    split at h
    · simp only [List.mem_cons] at h ⊢
      rcases h with h | h <;> simp [h]
    · split at h
      · simpa using h
      · rcases List.mem_cons.1 h with h | h
        · simp [h]
        · rcases ih h with h | h <;> simp [h]

theorem place_ascending (d : Definition) {ds : List Definition}
    (h : ds.Pairwise (fun a b => a.url < b.url)) :
    (place d ds).Pairwise (fun a b => a.url < b.url) := by
  induction ds with
  | nil => simp [place]
  | cons e r ih =>
    obtain ⟨he, hr⟩ := List.pairwise_cons.1 h
    unfold place
    split
    · rename_i heq
      exact List.pairwise_cons.2 ⟨fun x hx => heq ▸ he x hx, hr⟩
    · split
      · rename_i hlt
        refine List.pairwise_cons.2 ⟨fun x hx => ?_, h⟩
        rcases List.mem_cons.1 hx with rfl | hx
        · exact hlt
        · exact String.lt_trans hlt (he x hx)
      · rename_i hne hlt
        refine List.pairwise_cons.2 ⟨fun x hx => ?_, ih hr⟩
        rcases mem_place hx with rfl | hx
        · exact Decidable.byContradiction fun hge =>
            hne (String.le_antisymm (String.not_lt.1 hge) (String.not_lt.1 hlt))
        · exact he x hx

def empty : Snapshot := ⟨[], .nil⟩

def insert (s : Snapshot) (d : Definition) : Snapshot :=
  ⟨place d s.definitions, place_ascending d s.ascending⟩

def ofList (ds : List Definition) : Snapshot := ds.foldl insert empty

def get? (s : Snapshot) (url : String) : Option Definition :=
  s.definitions.find? (·.url = withSlash url)

def size (s : Snapshot) : Nat := s.definitions.length

/-- The snapshot as diagnostics show it: its definitions under their URLs. -/
def debug (s : Snapshot) : String :=
  "ClusterSnapshot \x7b clusters: \x7b" ++
    Cluster.showFields (s.definitions.map fun d => (Quoted.encode d.url, d.debug)) ++ "\x7d \x7d"

end Snapshot

end Fleet
