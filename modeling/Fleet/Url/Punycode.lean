/-
  Fleet/Url/Punycode.lean
  =======================
  **Labels in ASCII: Punycode (RFC 3492).**

  The characters of a label beyond ASCII are written, in ascending order, as differences in a
  variable-length notation with base 36, whose thresholds follow the size of the differences
  seen so far (`adapt`).

  No step runs on fuel: `adaptLoop` and `encodeInt` divide their argument, `decodeInt` and
  `decodeFrom` use up their input, and `encodeFrom` goes through the list of code points.
-/

namespace Fleet.Url.Punycode

/-- The digit of value `d`: `a` to `z`, then `0` to `9`. -/
def digit (d : Nat) : Char := if d < 26 then Char.ofNat (97 + d) else Char.ofNat (22 + d)

/-- The value of a digit, in either case. -/
def value? (c : Char) : Option Nat :=
  let n := c.toNat
  if 97 ≤ n && n ≤ 122 then some (n - 97)
  else if 65 ≤ n && n ≤ 90 then some (n - 65)
  else if 48 ≤ n && n ≤ 57 then some (n - 22)
  else none

/-- The threshold of the digit at place `k`, places counting 36, 72, and so on. -/
def threshold (k bias : Nat) : Nat :=
  if k ≤ bias then 1 else if bias + 26 ≤ k then 26 else k - bias

theorem one_le_threshold (k bias : Nat) : 1 ≤ threshold k bias := by
  unfold threshold
  split
  · omega
  · split <;> omega

def adaptLoop (delta k : Nat) : Nat :=
  if 455 < delta then adaptLoop (delta / 35) (k + 36) else k + 36 * delta / (delta + 38)
termination_by delta
decreasing_by omega

/-- The bias after a difference `delta`, with `count` characters in place. -/
def adapt (delta count : Nat) (first : Bool) : Nat :=
  let d := if first then delta / 700 else delta / 2
  adaptLoop (d + d / count) 0

/-! ### Writing -/

/-- The digits of a number, the first one at place `k`. -/
def encodeInt (bias k q : Nat) : List Char :=
  let t := threshold k bias
  if q < t then [digit q]
  else digit (t + (q - t) % (36 - t)) :: encodeInt bias (k + 36) ((q - t) / (36 - t))
termination_by q
decreasing_by
  have h₁ := one_le_threshold k bias
  have : (q - threshold k bias) / (36 - threshold k bias) ≤ q - threshold k bias :=
    Nat.div_le_self _ _
  omega

/-- What has been written, the difference so far, the bias, and how many characters are in
    place. -/
structure Writing where
  out : List Char
  delta : Nat
  bias : Nat
  count : Nat

/-- Passes one character of the label while the code point `m` is being written. -/
def Writing.pass (basic m : Nat) (w : Writing) (c : Nat) : Writing :=
  if c < m then { w with delta := w.delta + 1 }
  else if c = m then
    { out := w.out ++ encodeInt w.bias 36 w.delta, delta := 0,
      bias := adapt w.delta (w.count + 1) (w.count == basic), count := w.count + 1 }
  else w

/-- Writes the code points of an ascending list, `n` being the least that may still come. -/
def encodeFrom (label : List Nat) (basic n : Nat) (w : Writing) : List Nat → List Char
  | [] => w.out
  | m :: ms =>
    let w := label.foldl (Writing.pass basic m) { w with delta := w.delta + (m - n) * (w.count + 1) }
    encodeFrom label basic (m + 1) { w with delta := w.delta + 1 } ms

/-- Puts a number into an ascending list without repetitions. -/
def insertNew (n : Nat) : List Nat → List Nat
  | [] => [n]
  | m :: r => if n < m then n :: m :: r else if n = m then m :: r else m :: insertNew n r

/-- A label in ASCII: its basic characters, a hyphen if there are any, and the differences. -/
def encode (label : List Char) : List Char :=
  let points := label.map Char.toNat
  let basic := label.filter (·.toNat < 128)
  let start := if basic.isEmpty then [] else basic ++ ['-']
  encodeFrom points basic.length 128 ⟨start, 0, 72, basic.length⟩
    ((points.filter (128 ≤ ·)).foldr insertNew [])

/-! ### Reading -/

/-- The weights of digits stay below this bound. -/
def weightBound : Nat := 0x100000000

/-- The number that begins here with weight `w` at place `k`, and what is left. -/
def decodeInt (bias k w : Nat) : (cs : List Char) → Option (Nat × { r : List Char // r.length < cs.length })
  | [] => none
  | c :: r => do
    let d ← value? c
    let t := threshold k bias
    if d < t then return (d * w, ⟨r, by simp⟩)
    else if weightBound ≤ w * (36 - t) then none
    else
      let ⟨n, r', h⟩ ← decodeInt bias (k + 36) (w * (36 - t)) r
      return (d * w + n, ⟨r', by simp; omega⟩)

/-- Puts the characters that the differences describe into `out`, of which the last one put
    was code point `n` in front of place `i`. -/
def decodeFrom (n i bias : Nat) (out : List Nat) (cs : List Char) : Option (List Nat) :=
  if cs.isEmpty then some out
  else
    match decodeInt bias 36 1 cs with
    | none => none
    | some (d, ⟨r, h⟩) =>
      let count := out.length + 1
      let n' := n + (i + d) / count
      let i' := (i + d) % count
      if n'.isValidChar then
        decodeFrom n' (i' + 1) (adapt d count (i == 0)) (out.insertIdx i' n') r
      else none
termination_by cs.length

/-- The label that a text in ASCII stands for. -/
def decode (text : List Char) : Option (List Char) :=
  let basic := (text.reverse.dropWhile (· ≠ '-')).reverse.dropLast
  let rest := if basic.isEmpty then text else text.drop (basic.length + 1)
  (decodeFrom 128 0 72 (basic.map Char.toNat) rest).map (·.map Char.ofNat)

end Fleet.Url.Punycode
