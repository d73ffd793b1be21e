/-
  Fleet/Unicode/Alphanumeric.lean
  ===============================
  **Letters and numbers of all scripts.**
-/
import Fleet.Unicode.Chart
import Fleet.Unicode.AlphanumericData

namespace Fleet.Unicode

@[noinline] def alphanumerics : Chart Bool := Chart.ofEdges alphanumericData

/-- Whether a character is a letter or a number, of whatever script. -/
def isAlphanumeric (c : Char) : Bool := alphanumerics.has c

end Fleet.Unicode
