/-
  Fleet/Duration.lean
  ===================
  **Spans of time, and how they are shown.**

  A span is a whole number of nanoseconds.  It is shown in the largest of the units second,
  millisecond, microsecond and nanosecond that it reaches, with as many decimals as it needs:
  `300s`, `1.5s`, `100ms`, `1µs`, `0ns`.
-/

namespace Fleet

structure Duration where
  nanos : Nat
deriving DecidableEq, Repr

namespace Duration

def ofSecs (n : Nat) : Duration := ⟨n * 1000000000⟩

def ofMillis (n : Nat) : Duration := ⟨n * 1000000⟩

/-- The decimals of `n` out of `10 ^ k`, without the zeros at the end. -/
def decimals (k n : Nat) : List Char :=
  let digits := Nat.toDigits 10 n
  (List.replicate (k - digits.length) '0' ++ digits).reverse.dropWhile (· == '0') |>.reverse

/-- The number of units of `10 ^ k` nanoseconds in `n`, with its decimals. -/
def quantity (k n : Nat) : String :=
  let whole := toString (n / Nat.pow 10 k)
  match decimals k (n % Nat.pow 10 k) with
  | [] => whole
  | ds => whole ++ "." ++ String.ofList ds

/-- The span in the largest unit it reaches. -/
def render (d : Duration) : String :=
  if 1000000000 ≤ d.nanos then quantity 9 d.nanos ++ "s"
  else if 1000000 ≤ d.nanos then quantity 6 d.nanos ++ "ms"
  else if 1000 ≤ d.nanos then quantity 3 d.nanos ++ "µs"
  else quantity 0 d.nanos ++ "ns"

end Duration

end Fleet
