/-
  Fleet/Url/Address.lean
  ======================
  **Internet addresses of both versions.**

  An address of version 4 is read from one to four numbers, each decimal, octal or
  hexadecimal, of which the last fills the bytes that the others leave.  One of version 6 is
  read from groups of up to four hexadecimal digits, where one `::` stands for the zero
  groups that are missing and the last two groups may be written as an address of version 4.

  Addresses are written in one way only: four decimal bytes, or lower-case groups with the
  first of the longest runs of at least two zero groups shortened.
-/
import Fleet.Text.Hex

namespace Fleet.Url

open Fleet.Text

/-! ### Version 4 -/

namespace Ipv4

/-- The number that a part stands for, with its base told by how it begins: `0x` for
    hexadecimal, `0` for octal. -/
def number? (cs : List Char) : Option Nat :=
  let inBase (base : Nat) (ok : Char → Bool) (ds : List Char) : Option Nat :=
    if ds.all ok then
      some (ds.foldl (fun n c => base * n + (Hex.value? c).getD 0) 0)
    else none
  match cs with
  | [] => none
  | '0' :: 'x' :: ds | '0' :: 'X' :: ds => inBase 16 Hex.isDigit ds
  | '0' :: d :: ds => inBase 8 (fun c => '0' ≤ c && c ≤ '7') (d :: ds)
  | ds => inBase 10 Char.isDigit ds

/-- The parts of a host, an empty one at the end left out. -/
def parts (cs : List Char) : List (List Char) :=
  let ps := cs.splitOnP (· == '.')
  if ps.getLast? = some [] && 1 < ps.length then ps.dropLast else ps

/-- Whether a host must be read as an address: its last part is a number, or looks like a
    decimal one. -/
def isMeant (cs : List Char) : Bool :=
  match (parts cs).getLast? with
  | none => false
  | some p => (!p.isEmpty && p.all Char.isDigit) || (number? p).isSome

/-- The address that the numbers stand for. -/
def combine? (ns : List Nat) : Option Nat :=
  match ns.getLast? with
  | none => none
  | some last =>
    let front := ns.dropLast
    if 3 < front.length || front.any (255 < ·) || Nat.pow 256 (4 - front.length) ≤ last then none
    else some (front.foldl (fun a n => 256 * a + n) 0 * Nat.pow 256 (4 - front.length) + last)

def parse? (cs : List Char) : Option Nat := ((parts cs).mapM number?).bind combine?

def render (a : Nat) : List Char :=
  ['.'].intercalate ([a / 16777216 % 256, a / 65536 % 256, a / 256 % 256, a % 256].map (Nat.toDigits 10))

end Ipv4

/-! ### Version 6 -/

namespace Ipv6

def group? (cs : List Char) : Option Nat :=
  if 0 < cs.length && cs.length ≤ 4 && cs.all Hex.isDigit then some (Hex.number cs) else none

/-- A byte in decimal, without leading zeros. -/
def byte? (cs : List Char) : Option Nat :=
  let n := cs.foldl (fun n c => 10 * n + (c.toNat - 48)) 0
  if cs.isEmpty || !cs.all Char.isDigit || (1 < cs.length && cs.head? = some '0') || 255 < n then
    none
  else some n

/-- The two groups that an embedded address of version 4 fills. -/
def embedded? (cs : List Char) : Option (List Nat) :=
  match (cs.splitOnP (· == '.')).mapM byte? with
  | some [a, b, c, d] => some [256 * a + b, 256 * c + d]
  | _ => none

/-- The groups between colons; only the last ones of an address (`final`) may be embedded. -/
def groups? (final : Bool) : List (List Char) → Option (List Nat)
  | [] => some []
  | [p] => if final && p.contains '.' then embedded? p else (group? p).map ([·])
  | p :: ps => do
    let g ← group? p
    let gs ← groups? final ps
    return g :: gs

/-- The groups of a text without `::`; an empty text has none. -/
def run? (final : Bool) (cs : List Char) : Option (List Nat) :=
  if cs.isEmpty then some [] else groups? final (cs.splitOnP (· == ':'))

/-- The text in front of the first `::` and the text behind it. -/
def gap? : List Char → Option (List Char × List Char)
  | ':' :: ':' :: r => some ([], r)
  | c :: r => (gap? r).map fun p => (c :: p.1, p.2)
  | [] => none

/-- The eight groups of an address. -/
def parse? (cs : List Char) : Option (List Nat) :=
  match gap? cs with
  | none => do
    let gs ← run? true cs
    if gs.length = 8 then return gs else none
  | some (before, after) => do
    let front ← run? false before
    let back ← run? true after
    let missing := 8 - (front.length + back.length)
    if missing = 0 then none else return front ++ List.replicate missing 0 ++ back

/-- The start and length of the first of the longest runs of zeros, from place `i` on. -/
def longestZeros : Nat → List Nat → Nat × Nat
  | _, [] => (0, 0)
  | i, p :: ps =>
    let here := ((p :: ps).takeWhile (· == 0)).length
    let later := longestZeros (i + 1) ps
    if here < later.2 then later else (i, here)

def join (ps : List Nat) : List Char := [':'].intercalate (ps.map Hex.numeral)

/-- The groups, the first of the longest runs of at least two zeros as `::`. -/
def render (ps : List Nat) : List Char :=
  let (i, k) := longestZeros 0 ps
  if k < 2 then join ps else join (ps.take i) ++ [':', ':'] ++ join (ps.drop (i + k))

end Ipv6

end Fleet.Url
