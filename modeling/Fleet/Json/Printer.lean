/-
  Fleet/Json/Printer.lean
  =======================
  **Writing JSON text.**

  Values are written without blanks, the fields of an object in the order in which they are
  held.  In strings only the quote, the backslash and the controls are escaped.
-/
import Fleet.Json.Basic
import Fleet.Text.Hex

namespace Fleet.Json

open Fleet.Text

/-- The written form of one character of a string. -/
def printChar (c : Char) : List Char :=
  match c with
  | '\x22' => ['\\', '\x22']
  | '\\' => ['\\', '\\']
  | '\n' => ['\\', 'n']
  | '\r' => ['\\', 'r']
  | '\t' => ['\\', 't']
  | '\x08' => ['\\', 'b']
  | '\x0c' => ['\\', 'f']
  | c => if c.toNat < 32 then ['\\', 'u'] ++ Hex.padded 4 c.toNat else [c]

def printString (s : String) : List Char :=
  '\x22' :: (s.toList.flatMap printChar ++ ['\x22'])

def Number.render : Number → String
  | .int i => toString i
  | .double bits => Double.render bits

mutual

def print : Json → List Char
  | .null => ['n', 'u', 'l', 'l']
  | .bool true => ['t', 'r', 'u', 'e']
  | .bool false => ['f', 'a', 'l', 's', 'e']
  | .num n => n.render.toList
  | .str s => printString s
  | .arr xs => '[' :: printItems xs
  | .obj o => '\x7b' :: printFields o

/-- Items and the bracket that closes them. -/
def printItems : List Json → List Char
  | [] => [']']
  | [x] => print x ++ [']']
  | x :: y :: r => print x ++ ',' :: printItems (y :: r)

/-- Fields and the brace that closes them. -/
def printFields : List (String × Json) → List Char
  | [] => ['\x7d']
  | [(k, v)] => printString k ++ ':' :: print v ++ ['\x7d']
  | (k, v) :: p :: r => printString k ++ ':' :: print v ++ ',' :: printFields (p :: r)

end

def render (j : Json) : String := String.ofList (print j)

end Fleet.Json
