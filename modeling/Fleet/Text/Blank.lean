/-
  Fleet/Text/Blank.lean
  =====================
  **Blank characters, and cutting them off a text.**

  A character is blank when it has the Unicode property White_Space.  The zero-width
  characters and the byte order mark do not have it, and neither do the information
  separators U+001C to U+001F, so a name made of those is not a blank name.

  `strip p` cuts the characters that satisfy `p` off both ends of a list; `trim` is `strip`
  for blanks, on strings.
-/

namespace Fleet.Text

/-- The characters with the property White_Space. -/
def isBlank (c : Char) : Bool :=
  let n := c.toNat
  (9 ≤ n && n ≤ 13) || n == 0x20 || n == 0x85 || n == 0xA0 || n == 0x1680 ||
    (0x2000 ≤ n && n ≤ 0x200A) || n == 0x2028 || n == 0x2029 || n == 0x202F ||
    n == 0x205F || n == 0x3000

/-- What is left of `cs` once its last characters that satisfy `p` are gone. -/
def stripEnd (p : Char → Bool) (cs : List Char) : List Char :=
  (cs.reverse.dropWhile p).reverse

/-- What is left of `cs` once the characters that satisfy `p` are cut off both ends. -/
def strip (p : Char → Bool) (cs : List Char) : List Char :=
  stripEnd p (cs.dropWhile p)

/-- The text without the blanks at its ends. -/
def trim (s : String) : String :=
  String.ofList (strip isBlank s.toList)

/-- A text with nothing in it but blanks. -/
def isBlankText (s : String) : Bool :=
  s.toList.all isBlank

end Fleet.Text
