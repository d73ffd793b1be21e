/-
  Fleet/Json/Double.lean
  ======================
  **The decimal text of a double.**

  A finite double other than zero is `m · 2 ^ q`.  Its text has the fewest digits among the
  decimals that lie in the interval of reals which round to it, the ends belonging to the
  interval exactly when `m` is even; among those with the fewest digits it is the nearest.
  The text is positional, with a decimal point, from 0.00001 up to 10 ^ 16; beyond these it has
  one digit in front of the point, if there are more, and an exponent with its sign.
-/

namespace Fleet.Json.Double

/-- A positive double as `m · 2 ^ q`; `edge` says that the gap below it is half the gap above. -/
structure Parts where
  m : Nat
  q : Int
  edge : Bool
deriving DecidableEq, Repr

/-- The parts of the double with these bits, the sign aside. -/
def Parts.ofBits (bits : Nat) : Parts :=
  let e : Nat := bits / 4503599627370496 % 2048
  let f : Nat := bits % 4503599627370496
  if e = 0 then ⟨f, -1074, false⟩ else ⟨4503599627370496 + f, (e : Int) - 1075, f == 0 && 1 < e⟩

structure Fraction where
  num : Nat
  den : Nat
deriving DecidableEq, Repr

/-- `n · 2 ^ q · 10 ^ e`. -/
def Fraction.scaled (n : Nat) (q e : Int) : Fraction :=
  ⟨n * Nat.pow 2 q.toNat * Nat.pow 10 e.toNat, Nat.pow 2 (-q).toNat * Nat.pow 10 (-e).toNat⟩

def Fraction.le (a b : Fraction) : Bool := a.num * b.den ≤ b.num * a.den
def Fraction.lt (a b : Fraction) : Bool := a.num * b.den < b.num * a.den

/-- The least `e` from `e` on, within `fuel` steps, with `p < 10 ^ e`. -/
def magnitude (x : Nat → Int → Fraction) (p : Nat) : Nat → Int → Int
  | 0, e => e
  | fuel + 1, e => if (x p (-e)).lt ⟨1, 1⟩ then e else magnitude x p fuel (e + 1)

/-- The multiple of `10 ^ (e - k)` with the fewest digits that rounds to the double, looked
    for with `k` digits and, `fuel` times, with one digit more: its digits and `e - k`. -/
def shortest (p : Parts) (e : Int) : Nat → Nat → Nat × Int
  | 0, k => (0, e - k)
  | fuel + 1, k =>
    let at4 (n : Nat) : Fraction := .scaled n (p.q - 2) (k - e)
    let low := at4 (4 * p.m - if p.edge then 1 else 2)
    let high := at4 (4 * p.m + 2)
    let v := at4 (4 * p.m)
    let within (n : Nat) : Bool :=
      if p.m % 2 = 0 then low.le ⟨n, 1⟩ && Fraction.le ⟨n, 1⟩ high
      else low.lt ⟨n, 1⟩ && Fraction.lt ⟨n, 1⟩ high
    let d := v.num / v.den
    let nearerAbove := v.den < 2 * (v.num - d * v.den)
    if within d && within (d + 1) then (if nearerAbove then d + 1 else d, e - k)
    else if within d then (d, e - k)
    else if within (d + 1) then (d + 1, e - k)
    else shortest p e fuel (k + 1)

/-- `d · 10 ^ e` in positional notation. -/
def positional (d : Nat) (e : Int) : String :=
  let ds := Nat.toDigits 10 d
  if 0 ≤ e then String.ofList (ds ++ List.replicate e.toNat '0' ++ ['.', '0'])
  else
    let k := (-e).toNat
    let ds := List.replicate (k + 1 - ds.length) '0' ++ ds
    String.ofList (ds.take (ds.length - k) ++ '.' :: ds.drop (ds.length - k))

/-- A number with these digits, of which the first has the place value `10 ^ e`, in scientific
    notation. -/
def scientific (ds : List Char) (e : Int) : String :=
  String.ofList (ds.take 1 ++ (if 1 < ds.length then '.' :: ds.drop 1 else [])) ++
    (if e < 0 then "e-" else "e+") ++ toString e.natAbs

/-- Takes zeros off the end of the digits `d · 10 ^ e`. -/
def trimZeros (d : Nat) (e : Int) : Nat × Int :=
  if h : 0 < d ∧ d % 10 = 0 then trimZeros (d / 10) (e + 1) else (d, e)
termination_by d
decreasing_by omega

/-- The text of `d · 10 ^ e`. -/
def decimal (d : Nat) (e : Int) : String :=
  let ds := Nat.toDigits 10 d
  let whole := e + ds.length
  if -5 < whole && whole ≤ 16 then positional d e else scientific ds (whole - 1)

def render (bits : UInt64) : String :=
  let n := bits.toNat
  let p := Parts.ofBits (n % 9223372036854775808)
  let sign := if n < 9223372036854775808 then "" else "-"
  if p.m = 0 then sign ++ "0.0"
  else
    let e := magnitude (fun m e => .scaled m p.q e) p.m 700 (-330)
    let (d, f) := shortest p e 17 1
    let (d, f) := trimZeros d f
    sign ++ decimal d f

end Fleet.Json.Double
