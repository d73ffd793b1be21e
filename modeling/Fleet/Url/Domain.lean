/-
  Fleet/Url/Domain.lean
  =====================
  **Domain names in ASCII.**

  A domain name given by a user is mapped to its plain form, composed, and cut into labels;
  labels beyond ASCII are written in Punycode behind `xn--`.  What comes out is accepted if
  it is a domain name (`isDomain`): lower-case ASCII without the characters that no host
  holds, in which every label behind `xn--` reads as a proper label (`isProper`), and the
  labels together keep the rule for right-to-left text.

  Acceptance looks at the written form only.  So a domain name that has been accepted is
  mapped to itself, unless one of its encoded labels is too long to be given (`isBrief`).
-/
import Fleet.Unicode.Mapping
import Fleet.Unicode.Composition
import Fleet.Unicode.Direction
import Fleet.Url.Punycode

namespace Fleet.Url.Domain

open Fleet.Unicode

def isAscii (c : Char) : Bool := c.toNat < 128

/-- What an encoded label begins with. -/
def ace : List Char := ['x', 'n', '-', '-']

/-! ### Labels -/

/-- Whether the joiners in the text keep their rules, `before` being the text in front of it
    in reverse: each follows a virama, or, if it is a non-joiner, stands between letters that
    would join. -/
def joinersFit (before : List Char) : List Char → Bool
  | [] => true
  | c :: r =>
    let afterVirama := before.head?.any (combiningClass · == 9)
    let through (cs : List Char) := (cs.dropWhile (joining · == .transparent)).head?
    let between :=
      (through before).any (fun d => joining d == .left || joining d == .dual) &&
        (through r).any (fun d => joining d == .right || joining d == .dual)
    (if c = '\u200c' then afterVirama || between
      else if c = '\u200d' then afterVirama
      else true) && joinersFit (c :: before) r

/-- The longest label that may stand behind `xn--`, and the longest text behind `xn--` in a
    label that is given encoded. -/
def maxDecoded : Nat := 1000
def maxEncoded : Nat := 2000

/-- Whether a label may stand behind `xn--`: it goes beyond ASCII, is not too long, is
    composed, holds only characters that the mapping keeps, does not begin with a mark, and
    has its joiners in order. -/
def isProper (label : List Char) : Bool :=
  !label.all isAscii && label.length ≤ maxDecoded && compose label == label &&
    label.all isKept && !label.head?.any isMark && joinersFit [] label

/-- Text that makes its whole domain subject to the rule for right-to-left text. -/
def isRightToLeft (c : Char) : Bool :=
  match direction c with
  | .right | .arabicLetter | .arabicNumber => true
  | _ => false

/-- Whether a label keeps the rule for right-to-left text: it begins with a letter, holds what
    goes with letters of that direction, and ends in a letter or number, marks aside. -/
def keepsDirection (label : List Char) : Bool :=
  match label.map direction with
  | [] => true
  | d :: ds =>
    let all := d :: ds
    let last := (all.reverse.dropWhile (· == .mark)).head?
    let common : List Direction :=
      [.europeanNumber, .europeanSeparator, .commonSeparator, .europeanTerminator, .neutral,
        .boundary, .mark]
    match d with
    | .left =>
      all.all (fun x => x == .left || common.contains x) &&
        last.any fun x => x == .left || x == .europeanNumber
    | .right | .arabicLetter =>
      all.all (fun x => x == .right || x == .arabicLetter || x == .arabicNumber || common.contains x) &&
        (last.any fun x =>
          x == .right || x == .arabicLetter || x == .europeanNumber || x == .arabicNumber) &&
        !(all.contains .europeanNumber && all.contains .arabicNumber)
    | _ => false

/-! ### Domain names -/

def isForbidden (c : Char) : Bool :=
  c.toNat ≤ 32 || c.toNat == 127 || "%#/:<>?@[\\]^|".toList.contains c

def labels (name : List Char) : List (List Char) := name.splitOnP (· == '.')

/-- What a label stands for. -/
def reveal (label : List Char) : Option (List Char) :=
  if ace.isPrefixOf label then (Punycode.decode (label.drop ace.length)).filter isProper
  else some label

/-- Whether a text is a domain name in ASCII. -/
def isDomain (name : List Char) : Bool :=
  name.all (fun c => isAscii c && !c.isUpper && !isForbidden c) &&
    match (labels name).mapM reveal with
    | none => false
    | some ls => !ls.any (·.any isRightToLeft) || ls.all keepsDirection

/-- Whether a label is not too long to be given, which only encoded labels can be. -/
def isBrief (label : List Char) : Bool :=
  !ace.isPrefixOf label || label.length ≤ ace.length + maxEncoded

/-- A given label in ASCII.  One that looks encoded has to be in ASCII as it is. -/
def conceal (label : List Char) : Option (List Char) :=
  if label.all isAscii then if isBrief label then some label else none
  else if !ace.isPrefixOf label && label.length ≤ maxDecoded then
    some (ace ++ Punycode.encode label)
  else none

/-- The domain name that a text would stand for. -/
def candidate (text : List Char) : Option (List Char) := do
  let plain ← if text.all isAscii then some (text.map Char.toLower) else (mapText text).map compose
  let ls ← (labels plain).mapM conceal
  return ['.'].intercalate ls

/-- The domain name that a text stands for. -/
def ofText? (text : List Char) : Option (List Char) := (candidate text).filter isDomain

end Fleet.Url.Domain
