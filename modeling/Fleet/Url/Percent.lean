/-
  Fleet/Url/Percent.lean
  ======================
  **Percent-encoding.**

  A character that may not stand in a part of a URL is replaced by its bytes, each written as
  a percent sign and two hexadecimal digits.  Which characters those are depends on the part;
  controls and everything beyond ASCII are never left as they are.  A percent sign is left
  alone, so that encoding a second time changes nothing.
-/
import Fleet.Text.Hex

namespace Fleet.Url.Percent

open Fleet.Text

/-- Controls, and everything beyond ASCII. -/
def inControl (c : Char) : Bool := c.toNat < 32 || 127 ≤ c.toNat

def inFragment (c : Char) : Bool := inControl c || " \"<>`".toList.contains c

/-- What is encoded in the query of a web URL. -/
def inQuery (c : Char) : Bool := inControl c || " \"#<>'".toList.contains c

def inPath (c : Char) : Bool := inFragment c || "#?\x7b\x7d".toList.contains c

/-- What is encoded in a user name or password. -/
def inUserinfo (c : Char) : Bool := inPath c || "/:;=@[\\]^|".toList.contains c

def encodeByte (b : UInt8) : List Char :=
  ['%', Hex.upperDigit (b.toNat / 16), Hex.upperDigit (b.toNat % 16)]

/-- The characters of a text, those in the set `p` encoded. -/
def encode (p : Char → Bool) (cs : List Char) : List Char :=
  cs.flatMap fun c => if p c then (String.utf8EncodeChar c).flatMap encodeByte else [c]

/-- The bytes of a text, encoded ones decoded. -/
def decode : List Char → List UInt8
  | '%' :: a :: b :: r =>
    match Hex.value? a, Hex.value? b with
    | some x, some y => UInt8.ofNat (16 * x + y) :: decode r
    | _, _ => 37 :: decode (a :: b :: r)
  | c :: r => String.utf8EncodeChar c ++ decode r
  | [] => []

end Fleet.Url.Percent
