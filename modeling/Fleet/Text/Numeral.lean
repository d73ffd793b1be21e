/-
  Fleet/Text/Numeral.lean
  =======================
  **Whole numbers up to a bound.**

  A numeral is one decimal digit or more, perhaps behind a plus sign.  It is read from the
  left, and the first thing that is wrong with it is reported.
-/

namespace Fleet.Text.Numeral

inductive Fault where
  | empty | badDigit | tooLarge
deriving DecidableEq, Repr

def Fault.message : Fault → String
  | .empty => "cannot parse integer from empty string"
  | .badDigit => "invalid digit found in string"
  | .tooLarge => "number too large to fit in target type"

/-- Reads digits behind the number `n`. -/
def digits (bound n : Nat) : List Char → Except Fault Nat
  | [] => .ok n
  | c :: r =>
    if !c.isDigit then .error .badDigit
    else
      let m := 10 * n + (c.toNat - 48)
      if bound < m then .error .tooLarge else digits bound m r

/-- The number of at most `bound` that a text stands for. -/
def read (bound : Nat) : List Char → Except Fault Nat
  | [] => .error .empty
  | ['+'] => .error .badDigit
  | '+' :: r => digits bound 0 r
  | cs => digits bound 0 cs

end Fleet.Text.Numeral
