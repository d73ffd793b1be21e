/-
  Fleet/Url/Query.lean
  ====================
  **The parameters in a query.**

  Parameters are joined by `&`, and each is a key and a value with an equals sign between
  them.  In both, a plus sign is a space and other characters are percent-encoded; bytes that
  are no text are replaced.
-/
import Fleet.Text.Utf8
import Fleet.Url.Percent

namespace Fleet.Url.Query

open Fleet.Text

/-- The text that a part of a parameter stands for. -/
def decode (cs : List Char) : String :=
  Utf8.decodeLossy (Percent.decode (cs.map fun c => if c = '+' then ' ' else c))

def parameters (cs : List Char) : List (String × String) :=
  ((cs.splitOnP (· == '&')).filter (!·.isEmpty)).map fun p =>
    (decode (p.takeWhile (· ≠ '=')), decode ((p.dropWhile (· ≠ '=')).drop 1))

end Fleet.Url.Query
