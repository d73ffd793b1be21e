/-
  Fleet/Text/Hex.lean
  ===================
  **Hexadecimal digits and numerals.**

  Digits are read in either case.  They are written in lower case (`digit`), which is the
  form of identifiers and escapes, or in upper case (`upperDigit`), which is the form of a
  percent-encoded byte.
-/

namespace Fleet.Text.Hex

/-- The value of a hexadecimal digit, in either case. -/
def value? (c : Char) : Option Nat :=
  let n := c.toNat
  if 48 ≤ n && n ≤ 57 then some (n - 48)
  else if 97 ≤ n && n ≤ 102 then some (n - 87)
  else if 65 ≤ n && n ≤ 70 then some (n - 55)
  else none

def isDigit (c : Char) : Bool := (value? c).isSome

/-- The digit of value `n`, in lower case. -/
def digit (n : Nat) : Char :=
  if n < 10 then Char.ofNat (48 + n) else Char.ofNat (87 + n)

/-- The digit of value `n`, in upper case. -/
def upperDigit (n : Nat) : Char :=
  if n < 10 then Char.ofNat (48 + n) else Char.ofNat (55 + n)

/-- The number that the digits in `cs` stand for; other characters are passed over. -/
def number (cs : List Char) : Nat :=
  cs.foldl (fun n c => match value? c with | some d => 16 * n + d | none => n) 0

/-- The last `k` digits of `n`, in lower case. -/
def padded : Nat → Nat → List Char
  | 0, _ => []
  | k + 1, n => padded k (n / 16) ++ [digit (n % 16)]

/-- `n` without leading zeros, in lower case. -/
def numeral (n : Nat) : List Char := Nat.toDigits 16 n

end Fleet.Text.Hex
