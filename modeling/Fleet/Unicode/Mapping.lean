/-
  Fleet/Unicode/Mapping.lean
  ==========================
  **The compatibility mapping of domain names.**

  Before a domain name is looked at, each of its characters is replaced by the text that it
  stands for: capitals by small letters, compatibility forms by the plain ones, the
  ideographic full stop by a full stop.  Some characters are dropped and most code points
  are refused.
-/
import Fleet.Unicode.Chart
import Fleet.Unicode.MappingData

namespace Fleet.Unicode

open Fleet.Text

/-- What becomes of the characters on a stretch of code points. -/
inductive Fate where
  | kept
  | refused
  | moved (up : Bool) (by_ : Nat)
  /-- The first character of the stretch, and every second one after it, goes to the next. -/
  | alternating
  | replaced (text : List Char)
  /-- The texts for the characters of the stretch, one by one. -/
  | listed (texts : Array (List Char))

namespace Fate

/-- A text written as code points joined by points. -/
def readText (cs : List Char) : List Char :=
  (cs.splitOnP (· == '.')).map fun w => Char.ofNat (Hex.number w)

/-- The fate that the part of a word after the code point tells. -/
def read : List Char → Fate
  | '!' :: _ => kept
  | '~' :: _ => replaced []
  | '>' :: r => moved true (Hex.number r)
  | '<' :: r => moved false (Hex.number r)
  | '^' :: _ => alternating
  | '*' :: r => replaced (readText r)
  | '=' :: r => listed #[readText r]
  | _ => refused

/-- Adds the text for one more character to a list of texts. -/
def push (t : List Char) : Fate → Fate
  | listed ts => listed (ts.push t)
  | f => f

end Fate

def readFates (ws : List (List Char)) : Array (Nat × Fate) :=
  ws.foldl (fun out w =>
    match w with
    | ',' :: r => out.modify (out.size - 1) fun e => (e.1, e.2.push (Fate.readText r))
    | w => out.push (Hex.number (w.takeWhile Hex.isDigit), Fate.read (w.dropWhile Hex.isDigit)))
    #[]

@[noinline] def fates : Chart Fate := ⟨readFates (words mappingData)⟩

/-- The text that a character is replaced by; `none` if the character is refused. -/
def mapChar (c : Char) : Option (List Char) :=
  match fates.entry? c with
  | none => none
  | some (first, fate) =>
    match fate with
    | .kept => some [c]
    | .refused => none
    | .moved up d => some [Char.ofNat (if up then c.toNat + d else c.toNat - d)]
    | .alternating => some [if (c.toNat - first) % 2 = 0 then Char.ofNat (c.toNat + 1) else c]
    | .replaced t => some t
    | .listed ts => ts[c.toNat - first]?

/-- The text with every character replaced; `none` if one of them is refused. -/
def mapText (cs : List Char) : Option (List Char) :=
  (cs.mapM mapChar).map List.flatten

/-- Whether the mapping leaves a character as it is. -/
def isKept (c : Char) : Bool := mapChar c == some [c]

end Fleet.Unicode
