/-
  Fleet/Unicode/Composition.lean
  ==============================
  **Canonical composition of texts.**

  `compose` brings a text into the form in which canonically equivalent texts are equal and
  as short as composition makes them: characters are taken apart, the marks after each
  starter are ordered by their combining class, and starters absorb what they compose with.
  The Hangul syllables are computed, everything else is in the data.
-/
import Fleet.Unicode.Chart
import Fleet.Unicode.CompositionData

namespace Fleet.Unicode

open Fleet.Text

/-- A composite character and the pair it is made of. -/
structure Composite where
  whole : Char
  first : Char
  second : Char
deriving DecidableEq, Repr

def composites : Array Composite :=
  ((words compositionData).map fun w =>
    let part (stop : Char → Bool) (cs : List Char) := Char.ofNat (Hex.number (cs.takeWhile stop))
    let pair := (w.dropWhile (· ≠ '=')).drop 1
    { whole := part (· ≠ '=') w, first := part (· ≠ '+') pair,
      second := part (fun _ => true) ((pair.dropWhile (· ≠ '+')).drop 1) : Composite }).toArray

def compositeChart : Chart Composite := ⟨composites.map fun c => (c.whole.toNat, c)⟩

def combiningClasses : Chart Nat := Chart.ofWords Hex.number combiningClassData

/-- The canonical combining class; starters have class 0. -/
def combiningClass (c : Char) : Nat := combiningClasses.valueAt 0 c

/-! ### Hangul syllables -/

def letters? (c : Char) : Option (List Char) :=
  let s := c.toNat - 0xAC00
  if 0xAC00 ≤ c.toNat && s < 11172 then
    let trail := s % 28
    some ([Char.ofNat (0x1100 + s / 588), Char.ofNat (0x1161 + s % 588 / 28)] ++
      if trail = 0 then [] else [Char.ofNat (0x11A7 + trail)])
  else none

/-- The Hangul syllable of a leading consonant and a vowel, or of such a syllable and a
    trailing consonant. -/
def syllable? (a b : Char) : Option Char :=
  let l := a.toNat - 0x1100
  let v := b.toNat - 0x1161
  let s := a.toNat - 0xAC00
  let t := b.toNat - 0x11A7
  if 0x1100 ≤ a.toNat && l < 19 && 0x1161 ≤ b.toNat && v < 21 then
    some (Char.ofNat (0xAC00 + (l * 21 + v) * 28))
  else if 0xAC00 ≤ a.toNat && s < 11172 && s % 28 = 0 && 0x11A7 < b.toNat && t < 28 then
    some (Char.ofNat (a.toNat + t))
  else none

/-! ### Taking apart, ordering, putting together -/

/-- The parts of a character, taken apart at most `fuel` times. -/
def decomposeChar : Nat → Char → List Char
  | 0, c => [c]
  | fuel + 1, c =>
    match letters? c with
    | some ls => ls
    | none =>
      match compositeChart.entry? c with
      | some (_, k) => if k.whole = c then decomposeChar fuel k.first ++ [k.second] else [c]
      | none => [c]

/-- Puts a mark behind the marks at the end of a reversed text whose class is not higher. -/
def insertMark (k : Nat) (c : Char) : List (Char × Nat) → List (Char × Nat)
  | [] => [(c, k)]
  | (d, j) :: r => if k < j then (d, j) :: insertMark k c r else (c, k) :: (d, j) :: r

/-- The characters with their classes, the marks after each starter in order of class. -/
def ordered (cs : List Char) : List (Char × Nat) :=
  (cs.foldl (fun out c =>
    let k := combiningClass c
    if k = 0 then (c, 0) :: out else insertMark k c out) []).reverse

/-- The character that two others compose to. -/
def compose? (a b : Char) : Option Char :=
  match syllable? a b with
  | some s => some s
  | none => (composites.find? fun k => k.first = a && k.second = b).map (·.whole)

/-- Composes a text, the starter `s` and the marks behind it being open: `marks` holds them in
    reverse, `last` is the class of the latest. -/
def absorb (s : Char) (marks : List Char) (last : Nat) : List (Char × Nat) → List Char
  | [] => s :: marks.reverse
  | (c, k) :: r =>
    match if marks.isEmpty || (k ≠ 0 && last < k) then compose? s c else none with
    | some s' => absorb s' marks last r
    | none => if k = 0 then s :: (marks.reverse ++ absorb c [] 0 r) else absorb s (c :: marks) k r

/-- Composes an ordered text; marks in front of the first starter stay. -/
def recompose : List (Char × Nat) → List Char
  | [] => []
  | (c, k) :: r => if k = 0 then absorb c [] 0 r else c :: recompose r

def compose (cs : List Char) : List Char :=
  recompose (ordered (cs.flatMap (decomposeChar 8)))

end Fleet.Unicode
