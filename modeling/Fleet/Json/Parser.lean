/-
  Fleet/Json/Parser.lean
  ======================
  **Reading JSON text.**

  The reader takes one character after another and stops at the first flaw.  A flaw is
  reported with its place: the line, counted from 1, and how many bytes of that line had been
  taken when the flaw was seen.  A character that is only looked at counts as taken once it
  turns out to be the wrong one, and the four digits of a `\u` escape are taken together.

  Integers that fit into 64 bits are kept; any other number becomes the double that is
  computed from its leading digits and its exponent in double arithmetic, and is refused when
  that overflows.  At most 127 arrays and objects may be open at once.  Of two fields with
  the same key the later one counts.

  Every step returns what is left of the text with a proof that it is shorter, so the reader
  ends on every input.
-/
import Fleet.Json.Basic
import Fleet.Text.Hex

namespace Fleet.Json

open Fleet.Text

/-! ### Flaws -/

inductive Flaw where
  | endInValue | endInList | endInObject | endInString
  | valueExpected | wordExpected | colonExpected | listEndExpected | objectEndExpected
  | keyExpected | trailingComma | trailingText | badNumber | numberTooLarge | badEscape
  | loneSurrogate | escapeCutShort | rawControl | tooDeep
deriving DecidableEq, Repr

def Flaw.message : Flaw → String
  | .endInValue => "EOF while parsing a value"
  | .endInList => "EOF while parsing a list"
  | .endInObject => "EOF while parsing an object"
  | .endInString => "EOF while parsing a string"
  | .valueExpected => "expected value"
  | .wordExpected => "expected ident"
  | .colonExpected => "expected `:`"
  | .listEndExpected => "expected `,` or `]`"
  | .objectEndExpected => "expected `,` or `\x7d`"
  | .keyExpected => "key must be a string"
  | .trailingComma => "trailing comma"
  | .trailingText => "trailing characters"
  | .badNumber => "invalid number"
  | .numberTooLarge => "number out of range"
  | .badEscape => "invalid escape"
  | .loneSurrogate => "lone leading surrogate in hex escape"
  | .escapeCutShort => "unexpected end of hex escape"
  | .rawControl => "control character (\\u0000-\\u001F) found while parsing a string"
  | .tooDeep => "recursion limit exceeded"

/-- A flaw, with the number of bytes that had not been taken when it was seen. -/
structure Stop where
  flaw : Flaw
  left : Nat
deriving DecidableEq, Repr

def weight (cs : List Char) : Nat := cs.foldl (fun n c => n + c.utf8Size) 0

/-- A flaw in what has been taken, with `cs` left. -/
def stop (f : Flaw) (cs : List Char) : Except Stop α := .error ⟨f, weight cs⟩

/-- A flaw in the first character of `cs`, of which one byte counts as taken, or in the end
    of the text. -/
def stopAt (f : Flaw) (cs : List Char) : Except Stop α := .error ⟨f, weight cs - 1⟩

/-- A result, and what is left of the text: less than there was. -/
abbrev Step (α : Type) (cs : List Char) := Except Stop (α × { r : List Char // r.length < cs.length })

/-! ### Words and blanks -/

def isSpace (c : Char) : Bool := c == ' ' || c == '\n' || c == '\t' || c == '\r'

/-- The text without the blanks in front of it. -/
def skip (cs : List Char) : List Char := cs.dropWhile isSpace

theorem length_lt_of_skip {cs r : List Char} {c : Char} (h : skip cs = c :: r) :
    r.length < cs.length := by
  have : (skip cs).length ≤ cs.length := (List.dropWhile_sublist _).length_le
  rw [h, List.length_cons] at this
  omega

def word : List Char → (cs : List Char) → Except Stop { r : List Char // r.length ≤ cs.length }
  | [], cs => .ok ⟨cs, Nat.le_refl _⟩
  | _ :: _, [] => stop .endInValue []
  | w :: ws, c :: cs =>
    if c = w then do
      let ⟨r, h⟩ ← word ws cs
      return ⟨r, by simp; omega⟩
    else stopAt .wordExpected (c :: cs)

/-! ### Strings -/

/-- The number that four hexadecimal digits give. -/
def fourDigits (cs : List Char) : Step Nat cs :=
  if weight cs < 4 then stop .endInString []
  else
    match cs with
    | a :: b :: c :: d :: r =>
      if [a, b, c, d].all Hex.isDigit then .ok (Hex.number [a, b, c, d], ⟨r, by simp; omega⟩)
      else .error ⟨.badEscape, weight cs - 4⟩
    | cs => .error ⟨.badEscape, weight cs - 4⟩

/-- The character that the digits after `\u` give, with a second escape for the characters
    beyond the first plane. -/
def codeUnit (cs : List Char) : Step Char cs := do
  let ⟨n, r, h⟩ ← fourDigits cs
  if 0xDC00 ≤ n && n ≤ 0xDFFF then stop .loneSurrogate r
  else if n < 0xD800 || 0xDBFF < n then return (Char.ofNat n, ⟨r, h⟩)
  else
    match r, h with
    | [], _ => stop .endInString []
    | '\\' :: [], _ => stop .endInString []
    | '\\' :: 'u' :: r', h =>
      let ⟨n', r'', h'⟩ ← fourDigits r'
      if n' < 0xDC00 || 0xDFFF < n' then stop .loneSurrogate r''
      else
        return (Char.ofNat ((n - 0xD800) * 0x400 + (n' - 0xDC00) + 0x10000), ⟨r'', by simp at h; omega⟩)
    | '\\' :: r', _ => stopAt .escapeCutShort r'
    | r, _ => stopAt .escapeCutShort r

/-- The character that an escape stands for, the backslash having been taken. -/
def escape : (cs : List Char) → Step Char cs
  | [] => stop .endInString []
  | c :: r =>
    let plain (d : Char) : Step Char (c :: r) := .ok (d, ⟨r, by simp⟩)
    if c = '\x22' then plain '\x22'
    else if c = '\\' then plain '\\'
    else if c = '/' then plain '/'
    else if c = 'b' then plain '\x08'
    else if c = 'f' then plain '\x0c'
    else if c = 'n' then plain '\n'
    else if c = 'r' then plain '\r'
    else if c = 't' then plain '\t'
    else if c = 'u' then do
      let ⟨d, r', h⟩ ← codeUnit r
      return (d, ⟨r', by simp; omega⟩)
    else stopAt .badEscape (c :: r)

/-- The characters up to the closing quote, in front of which `seen` stands in reverse. -/
def string (seen : List Char) : (cs : List Char) → Step String cs
  | [] => stop .endInString []
  | '\x22' :: r => .ok (String.ofList seen.reverse, ⟨r, by simp⟩)
  | '\\' :: r => do
    let ⟨d, r', h⟩ ← escape r
    let ⟨s, r'', h'⟩ ← string (d :: seen) r'
    return (s, ⟨r'', by simp; omega⟩)
  | c :: r =>
    if c.toNat < 32 then stop .rawControl r
    else do
      let ⟨s, r', h⟩ ← string (c :: seen) r
      return (s, ⟨r', by simp; omega⟩)
termination_by cs => cs.length

/-! ### Numbers -/

/-- The digits at the front of a text, and the rest. -/
def digits (cs : List Char) : List Char × List Char :=
  (cs.takeWhile Char.isDigit, cs.dropWhile Char.isDigit)

def maxUnsigned : Nat := 18446744073709551615

/-- Appends digits to a number as long as it fits into 64 bits: the number, how many digits
    were appended, and how many were left over. -/
def append (n : Nat) (count : Nat) : List Char → Nat × Nat × Nat
  | [] => (n, count, 0)
  | d :: ds =>
    let n' := 10 * n + (d.toNat - 48)
    if n' ≤ maxUnsigned then append n' (count + 1) ds else (n, count, ds.length + 1)

def power (k : Nat) : Float := Float.ofScientific 1 false k

/-- The double `n · 10 ^ e`, computed with one rounding for `n` and one for each factor of
    at most `10 ^ 308`; `none` when it overflows. -/
def scale (x : Float) (e : Int) : Option Float :=
  if x == 0 then some x
  else if 0 ≤ e then
    if 308 < e then none
    else
      let y := x * power e.toNat
      if y.isInf then none else some y
  else if -308 ≤ e then some (x / power (-e).toNat)
  else scale (x / power 308) (e + 308)
termination_by (-e).toNat
decreasing_by omega

/-- The double with the given sign, digits and exponent, with `cs` left of the text. -/
def double (negative : Bool) (n : Nat) (e : Int) (cs : List Char) : Except Stop Number :=
  match scale (Float.ofNat n) e with
  | none => stop .numberTooLarge cs
  | some x => .ok (.double (if negative then -x else x).toBits)

/-- The largest exponent that is taken as it stands. -/
def maxExponent : Nat := 2147483647

/-- Takes the digits of an exponent of which the first is the number `n`, until it becomes
    too large; the result is `none` then. -/
def exponent (n : Nat) : List Char → Option Nat × List Char
  | [] => (some n, [])
  | c :: r =>
    if c.isDigit then
      let n' := 10 * n + (c.toNat - 48)
      if n' ≤ maxExponent then exponent n' r else (none, r)
    else (some n, c :: r)

theorem length_exponent_le (n : Nat) (cs : List Char) :
    (exponent n cs).2.length ≤ cs.length := by
  fun_induction exponent n cs <;> simp_all
  omega

theorem length_digits_le (cs : List Char) : (digits cs).2.length ≤ cs.length :=
  (List.dropWhile_sublist _).length_le

/-- What is left of the text, no longer than before. -/
abbrev Tail (cs : List Char) := { r : List Char // r.length ≤ cs.length }

/-- The number with digits `n` and exponent `e`, after the letter that announces a further
    exponent. -/
def withExponent (negative : Bool) (n : Nat) (e : Int) (cs : List Char) :
    Except Stop (Number × Tail cs) :=
  let signed : Bool × { r : List Char // r.length ≤ cs.length } :=
    match cs with
    | '+' :: r => (false, ⟨r, by simp⟩)
    | '-' :: r => (true, ⟨r, by simp⟩)
    | r => (false, ⟨r, Nat.le_refl _⟩)
  match signed with
  | (_, ⟨[], _⟩) => stop .endInValue []
  | (below, ⟨c :: r, h⟩) =>
    if c.isDigit then
      have hl := length_exponent_le (c.toNat - 48) r
      have hd := length_digits_le (exponent (c.toNat - 48) r).2
      match hx : exponent (c.toNat - 48) r with
      | (some k, r') => do
        let x ← double negative n (if below then e - k else e + k) r'
        return (x, ⟨r', by simp at h; rw [hx] at hl; simp at hl; omega⟩)
      | (none, r') =>
        if n ≠ 0 && !below then stop .numberTooLarge r'
        else
          .ok (.double (if negative then -(0 : Float) else 0).toBits,
            ⟨(digits r').2, by simp at h; rw [hx] at hl hd; simp at hl hd; omega⟩)
    else stopAt .badNumber (c :: r)

/-- The number with digits `n` and exponent `e` so far, if an exponent follows it. -/
def finish (negative : Bool) (n : Nat) (e : Int) (cs : List Char) :
    Except Stop (Number × Tail cs) :=
  match cs with
  | 'e' :: r | 'E' :: r => do
    let ⟨x, r', h⟩ ← withExponent negative n e r
    return (x, ⟨r', by simp; omega⟩)
  | r => do
    let x ← double negative n e r
    return (x, ⟨r, Nat.le_refl _⟩)

/-- The number with whole digits `n` and `e` further ones, after the decimal point. -/
def withDecimals (negative : Bool) (n : Nat) (e : Nat) (cs : List Char) :
    Except Stop (Number × Tail cs) :=
  match digits cs, length_digits_le cs with
  | ([], r), _ => stopAt (if r.isEmpty then .endInValue else .badNumber) r
  | (ds, r), h => do
    let (n', count, _) := append n 0 ds
    let ⟨x, r', h'⟩ ← finish negative n' ((e : Int) - count) r
    return (x, ⟨r', by simp at h; omega⟩)

/-- The number whose digits begin here. -/
def number (negative : Bool) : (cs : List Char) → Step Number cs
  | [] => stop .endInValue []
  | c :: r =>
    if !c.isDigit then stopAt .badNumber (c :: r)
    else
      match digits r, length_digits_le r with
      | (ds, r'), h =>
        if c = '0' && !ds.isEmpty then stopAt .badNumber r
        else
          let (n, _, surplus) := append (c.toNat - 48) 0 ds
          match r' with
          | '.' :: r'' => do
            let ⟨x, q, hq⟩ ← withDecimals negative n surplus r''
            return (x, ⟨q, by simp at h ⊢; omega⟩)
          | r' =>
            if surplus ≠ 0 || r'.head? = some 'e' || r'.head? = some 'E' then do
              let ⟨x, q, hq⟩ ← finish negative n surplus r'
              return (x, ⟨q, by simp at h ⊢; omega⟩)
            else
              let x : Number :=
                if !negative then .int n
                else if n = 0 || 9223372036854775808 < n then .double (-(Float.ofNat n)).toBits
                else .int (-n)
              .ok (x, ⟨r', by simp at h ⊢; omega⟩)

/-! ### Values -/

mutual

/-- The value that begins here; `depth` more arrays and objects may be opened. -/
def value (depth : Nat) (cs : List Char) : Step Json cs :=
  match h : skip cs with
  | [] => stopAt .endInValue []
  | c :: r =>
    have hl := length_lt_of_skip h
    let constant (w : List Char) (j : Json) : Step Json cs := do
      let ⟨r', h'⟩ ← word w r
      return (j, ⟨r', by omega⟩)
    if c = 'n' then constant ['u', 'l', 'l'] .null
    else if c = 't' then constant ['r', 'u', 'e'] (.bool true)
    else if c = 'f' then constant ['a', 'l', 's', 'e'] (.bool false)
    else if c = '-' then do
      let ⟨x, r', h'⟩ ← number true r
      return (.num x, ⟨r', by omega⟩)
    else if c.isDigit then do
      let ⟨x, r', h'⟩ ← number false (c :: r)
      return (.num x, ⟨r', by simp at h'; omega⟩)
    else if c = '\x22' then do
      let ⟨s, r', h'⟩ ← string [] r
      return (.str s, ⟨r', by omega⟩)
    else if c = '[' then
      match depth with
      | 0 => stopAt .tooDeep (c :: r)
      | depth + 1 => do
        let ⟨xs, r', h'⟩ ← items depth [] r
        return (.arr xs, ⟨r', by omega⟩)
    else if c = '\x7b' then
      match depth with
      | 0 => stopAt .tooDeep (c :: r)
      | depth + 1 => do
        let ⟨o, r', h'⟩ ← members depth true [] r
        return (.obj o, ⟨r', by omega⟩)
    else stopAt .valueExpected (c :: r)
termination_by (cs.length, 0)

/-- The items up to the closing bracket; `seen` stands in front of them in reverse. -/
def items (depth : Nat) (seen : List Json) (cs : List Char) : Step (List Json) cs :=
  match h : skip cs with
  | [] => stopAt .endInList []
  | ']' :: r => .ok (seen.reverse, ⟨r, length_lt_of_skip h⟩)
  | c :: r =>
    have hl := length_lt_of_skip h
    if seen.isEmpty then do
      let ⟨x, r', h'⟩ ← value depth cs
      let ⟨xs, r'', h''⟩ ← items depth [x] r'
      return (xs, ⟨r'', by omega⟩)
    else if c = ',' then
      match skip r with
      | [] => stopAt .endInValue []
      | ']' :: r' => stopAt .trailingComma (']' :: r')
      | _ => do
        let ⟨x, r', h'⟩ ← value depth r
        let ⟨xs, r'', h''⟩ ← items depth (x :: seen) r'
        return (xs, ⟨r'', by omega⟩)
    else stopAt .listEndExpected (c :: r)
termination_by (cs.length, 1)

/-- The fields up to the closing brace; `first` says that none has been read yet. -/
def members (depth : Nat) (first : Bool) (seen : Fields) (cs : List Char) : Step Fields cs :=
  match h : skip cs with
  | [] => stopAt .endInObject []
  | '\x7d' :: r => .ok (seen, ⟨r, length_lt_of_skip h⟩)
  | c :: r =>
    have hl := length_lt_of_skip h
    if first then
      if c = '\x22' then do
        let ⟨o, r', h'⟩ ← member depth seen r
        return (o, ⟨r', by omega⟩)
      else stopAt .keyExpected (c :: r)
    else if c = ',' then
      match hr : skip r with
      | [] => stopAt .endInValue []
      | '\x22' :: r' => do
        have hl' := length_lt_of_skip hr
        let ⟨o, r'', h''⟩ ← member depth seen r'
        return (o, ⟨r'', by omega⟩)
      | '\x7d' :: r' => stopAt .trailingComma ('\x7d' :: r')
      | r' => stopAt .keyExpected r'
    else stopAt .objectEndExpected (c :: r)
termination_by (cs.length, 1)

/-- The field whose key has been opened, and those after it. -/
def member (depth : Nat) (seen : Fields) (cs : List Char) : Step Fields cs := do
  let ⟨k, r, hr⟩ ← string [] cs
  match h : skip r with
  | [] => stopAt .endInObject []
  | ':' :: r' =>
    have hl := length_lt_of_skip h
    let ⟨v, q, hq⟩ ← value depth r'
    let ⟨o, q', hq'⟩ ← members depth false (seen.insert k v) q
    return (o, ⟨q', by omega⟩)
  | r' => stopAt .colonExpected r'
termination_by (cs.length, 2)

end

/-! ### Texts -/

/-- The number of arrays and objects that may be open at once. -/
def maxDepth : Nat := 127

/-- The value that makes up a whole text. -/
def document (cs : List Char) : Except Stop Json := do
  let ⟨j, r, _⟩ ← value maxDepth cs
  match skip r with
  | [] => return j
  | r' => stopAt .trailingText r'

structure Fault where
  flaw : Flaw
  line : Nat
  column : Nat
deriving DecidableEq, Repr

def Fault.message (f : Fault) : String :=
  f.flaw.message ++ " at line " ++ toString f.line ++ " column " ++ toString f.column

/-- The line and the number of bytes taken of it, once `n` bytes of the text are taken. -/
def place (text : String) (n : Nat) : Nat × Nat :=
  (text.toUTF8.toList.take n).foldl
    (fun p b => if b = 10 then (p.1 + 1, 0) else (p.1, p.2 + 1)) (1, 0)

def parse (text : String) : Except Fault Json :=
  match document text.toList with
  | .ok j => .ok j
  | .error s =>
    let (line, column) := place text (text.utf8ByteSize - s.left)
    .error ⟨s.flaw, line, column⟩

end Fleet.Json
