/-
  Fleet/Unicode/Chart.lean
  ========================
  **Properties of code points that are constant on stretches.**

  A chart lists, in ascending order, the code points at which a property takes a new value.
  The value at a code point is that of the last entry not above it, found by bisection.
  Charts are read from the words of the data modules.
-/
import Fleet.Text.Hex

namespace Fleet.Unicode

open Fleet.Text

/-- The words of a text, separated by spaces and line ends. -/
def words (text : String) : List (List Char) :=
  (text.toList.splitOnP fun c => c == ' ' || c == '\n').filter (· ≠ [])

/-- A property of code points: each entry gives the first code point of a stretch and the
    value that holds from there up to the next entry. -/
structure Chart (α : Type) where
  entries : Array (Nat × α)

namespace Chart

variable {α : Type}

/-- How many of the entries between `lo` and `hi` start at `n` or before, counting those
    below `lo`. -/
def seek (t : Chart α) (n lo hi : Nat) : Nat :=
  if lo < hi then
    let mid := (lo + hi) / 2
    if (t.entries[mid]?).any (fun e => e.1 ≤ n) then t.seek n (mid + 1) hi
    else t.seek n lo mid
  else lo
termination_by hi - lo

/-- The entry whose stretch holds the character. -/
def entry? (t : Chart α) (c : Char) : Option (Nat × α) :=
  match t.seek c.toNat 0 t.entries.size with
  | 0 => none
  | i + 1 => t.entries[i]?

/-- The value at a character, or `d` below the first entry. -/
def valueAt (t : Chart α) (d : α) (c : Char) : α :=
  match t.entry? c with
  | some (_, v) => v
  | none => d

/-- The chart written as words `n:k`, where `read` gives the value of `k`. -/
def ofWords (read : List Char → α) (text : String) : Chart α :=
  ⟨((words text).map fun w =>
      (Hex.number (w.takeWhile (· ≠ ':')), read ((w.dropWhile (· ≠ ':')).drop 1))).toArray⟩

/-- The set written as the code points at which it begins and ends, in turn. -/
def ofEdges (text : String) : Chart Bool :=
  ⟨(((words text).map Hex.number).zipIdx.map fun p => (p.1, p.2 % 2 == 0)).toArray⟩

end Chart

/-- Whether the character is in a set given by its edges. -/
def Chart.has (t : Chart Bool) (c : Char) : Bool := t.valueAt false c

end Fleet.Unicode
