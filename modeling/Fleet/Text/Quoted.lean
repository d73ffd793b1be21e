/-
  Fleet/Text/Quoted.lean
  ======================
  **Quoted text for diagnostics.**

  A text is shown between double quotes.  Quotes, backslashes and the usual controls are
  written with a backslash; characters that could not be seen, or that would join the one
  before them, are written by code point as `\u` and the hexadecimal numeral in braces.
  Everything else stands for itself, the apostrophe included.
-/
import Fleet.Text.Hex
import Fleet.Unicode.Chart
import Fleet.Unicode.VisibleData

namespace Fleet.Text.Quoted

open Fleet.Unicode

/-- Characters that have no visible form of their own. -/
@[noinline] def invisible : Chart Bool := Chart.ofEdges invisibleData

/-- Characters that extend the one before them. -/
@[noinline] def extending : Chart Bool := Chart.ofEdges extendingData

/-- Whether a character is shown as it is. -/
def isPlain (c : Char) : Bool :=
  if c.toNat < 127 then decide (32 ≤ c.toNat)
  else !extending.has c && !invisible.has c

/-- The written form of one character between quotes. -/
def encodeChar (c : Char) : List Char :=
  match c with
  | '\x00' => ['\\', '0']
  | '\t' => ['\\', 't']
  | '\r' => ['\\', 'r']
  | '\n' => ['\\', 'n']
  | '\\' => ['\\', '\\']
  | '\x22' => ['\\', '\x22']
  | c =>
    if isPlain c then [c]
    else ['\\', 'u', '\x7b'] ++ Hex.numeral c.toNat ++ ['\x7d']

def encode (s : String) : String :=
  String.ofList ('\x22' :: (s.toList.flatMap encodeChar ++ ['\x22']))

end Fleet.Text.Quoted
