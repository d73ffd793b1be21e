/-
  Fleet/Uuid.lean
  ===============
  **Identifiers of 128 bits.**

  An identifier is written as five groups of lower-case hexadecimal digits (8, 4, 4, 4 and 12)
  joined by hyphens.  It is read from that form, from 32 digits without hyphens, and from
  the hyphenated form between braces or after `urn:uuid:`; letters may have either case.

  A text that is none of these is refused with the first thing that is wrong with it: that it
  is longer than every form, a character that cannot occur, a missing or superfluous hyphen,
  or the length of a group.
-/
import Fleet.Text.Hex

namespace Fleet

open Fleet.Text

structure Uuid where
  bits : BitVec 128
deriving DecidableEq, Repr

namespace Uuid

def nil : Uuid := ⟨0⟩

def top : Uuid := ⟨BitVec.allOnes 128⟩

def groups : List Nat := [8, 4, 4, 4, 12]

/-- Cuts a list into pieces of the given lengths. -/
def cut : List Nat → List Char → List (List Char)
  | [], _ => []
  | k :: ks, cs => cs.take k :: cut ks (cs.drop k)

/-- The written form: five groups of lower-case digits. -/
def render (u : Uuid) : String :=
  String.ofList (['-'].intercalate (cut groups (Hex.padded 32 u.bits.toNat)))

/-- The `n`-th of a sequence of identifiers marked as version 4. -/
def numbered (n : Nat) : Uuid :=
  ⟨BitVec.ofNat 128 (0xF1EE7000000040008000000000000000 + n)⟩

/-! ### Reading -/

inductive Fault where
  /-- The character at byte `index` cannot occur. -/
  | character (c : Char) (index : Nat)
  /-- Digits only, but not 32 of them; or longer than every form. -/
  | length (found : Nat)
  | groupCount (found : Nat)
  /-- Five groups, of which this one has the wrong length. -/
  | groupLength (group expected found : Nat)
deriving DecidableEq, Repr

def Fault.message : Fault → String
  | .character c i => "invalid character: found `" ++ String.singleton c ++ "` at " ++ toString i
  | .length n => "invalid length: found " ++ toString n
  | .groupCount n => "invalid group count: expected 5, found " ++ toString n
  | .groupLength g e n =>
    "invalid group length in group " ++ toString g ++ ": expected " ++ toString e ++
      ", found " ++ toString n

/-- The number of bytes that the characters take in a text. -/
def byteLength (cs : List Char) : Nat := cs.foldl (fun n c => n + c.utf8Size) 0

/-- The identifier that 32 digits stand for. -/
def ofDigits? (cs : List Char) : Option Uuid :=
  if cs.length = 32 && cs.all Hex.isDigit then some ⟨BitVec.ofNat 128 (Hex.number cs)⟩ else none

/-- The identifier in its hyphenated form, in either case. -/
def ofHyphenated? (cs : List Char) : Option Uuid :=
  let digits := cs.filter (· ≠ '-')
  if ['-'].intercalate (cut groups digits) = cs then ofDigits? digits else none

/-- What stands in front of the hyphenated form in a name of the `urn` scheme. -/
def urn : List Char := ['u', 'r', 'n', ':', 'u', 'u', 'i', 'd', ':']

/-- The number of bytes of the hyphenated form. -/
def hyphenatedLength : Nat := 36

/-- The text without braces or `urn:uuid:` around it, the number of bytes cut off in front,
    and whether nothing was cut off. -/
def unwrap (cs : List Char) : List Char × Nat × Bool :=
  if cs.head? = some '\x7b' && cs.getLast? = some '\x7d' && 2 ≤ cs.length then
    ((cs.drop 1).dropLast, 1, false)
  else if urn.isPrefixOf (cs.map Char.toLower) then (cs.drop urn.length, urn.length, false)
  else (cs, 0, true)

/-- The first character that is neither a digit nor a hyphen, with its byte index from `i`. -/
def stray? : Nat → List Char → Option (Char × Nat)
  | _, [] => none
  | i, c :: cs =>
    if c = '-' || Hex.isDigit c then stray? (i + c.utf8Size) cs else some (c, i)

/-- The first group that does not have its length, with that length and the length found. -/
def misfit? : Nat → List Nat → List (List Char) → Option Fault
  | g, e :: es, p :: ps => if p.length = e then misfit? (g + 1) es ps else some (.groupLength g e p.length)
  | _, _, _ => none

/-- What is wrong with a text that is not an identifier.  Inside a wrapping, a text with the
    length of the hyphenated form is looked at for itself: its bytes are counted from its
    own begin, and it lacks hyphens rather than having the wrong length. -/
def diagnose (cs : List Char) : Fault :=
  let (body, offset, bare) := unwrap cs
  let fits := byteLength body == hyphenatedLength
  if urn.length + hyphenatedLength < byteLength cs then .length (byteLength cs)
  else
    match stray? (if fits then 0 else offset) body with
    | some (c, i) => .character c i
    | none =>
      let parts := body.splitOnP (· == '-')
      if parts.length = 1 && bare && !fits then .length cs.length
      else if parts.length ≠ 5 then .groupCount parts.length
      else
        match misfit? 0 (groups.take 4) parts with
        | some f => f
        | none => .groupLength 4 12 (cs.length - 24)

/-- The identifier that a text stands for. -/
def parse (s : String) : Except Fault Uuid :=
  let cs := s.toList
  let (body, _, bare) := unwrap cs
  match (if bare then ofDigits? body else none) <|> ofHyphenated? body with
  | some u => .ok u
  | none => .error (diagnose cs)

end Uuid

end Fleet
