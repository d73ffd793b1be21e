/-
  Fleet/Unicode/Direction.lean
  ============================
  **Writing direction, joining behaviour and marks.**

  The properties that the rules for labels of domain names look at: the bidirectional class,
  the joining type, and whether a character is a combining mark.
-/
import Fleet.Unicode.Chart
import Fleet.Unicode.DirectionData

namespace Fleet.Unicode

/-- The bidirectional classes; those that no label may hold next to right-to-left text are
    taken together. -/
inductive Direction where
  | left | right | arabicLetter | europeanNumber | arabicNumber
  | europeanSeparator | europeanTerminator | commonSeparator | mark | neutral | boundary
  | excluded
deriving DecidableEq, Repr

def Direction.read : List Char → Direction
  | ['L'] => .left
  | ['R'] => .right
  | ['A', 'L'] => .arabicLetter
  | ['E', 'N'] => .europeanNumber
  | ['A', 'N'] => .arabicNumber
  | ['E', 'S'] => .europeanSeparator
  | ['E', 'T'] => .europeanTerminator
  | ['C', 'S'] => .commonSeparator
  | ['N', 'S', 'M'] => .mark
  | ['O', 'N'] => .neutral
  | ['B', 'N'] => .boundary
  | _ => .excluded

@[noinline] def directions : Chart Direction := Chart.ofWords Direction.read directionData

/-- The direction of a character.  Letters of ASCII run from left to right, as the chart has it
    too; for them it need not be read. -/
def direction (c : Char) : Direction :=
  if c.isAlpha then .left else directions.valueAt .left c

/-- How a character joins its neighbours. -/
inductive Joining where
  | none | left | right | dual | transparent
deriving DecidableEq, Repr

def Joining.read : List Char → Joining
  | ['L'] => .left
  | ['R'] => .right
  | ['D'] => .dual
  | ['T'] => .transparent
  | _ => .none

@[noinline] def joinings : Chart Joining := Chart.ofWords Joining.read joiningData

def joining (c : Char) : Joining := joinings.valueAt .none c

@[noinline] def marks : Chart Bool := Chart.ofEdges markData

/-- Whether a character is a combining mark. -/
def isMark (c : Char) : Bool := marks.has c

end Fleet.Unicode
