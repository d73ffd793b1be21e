/-
  Fleet/EnvFile.lean
  ==================
  **Files of variables.**

  A file of variables has one assignment a line: a name, an equals sign and a value, perhaps
  behind the word `export`.  Blank lines and comments do not count.  A value may be quoted:
  between single quotes everything stands for itself; between double quotes, and outside of
  quotes, a backslash escapes a few characters and a dollar sign brings in another variable.
  What is quoted may go on over several lines.

  Variables that are set already stay as they are (`load`).  The first line that is no
  assignment ends the reading; what was set before it stays set.
-/
import Fleet.Settings
import Fleet.Unicode.Alphanumeric

namespace Fleet.EnvFile

open Fleet.Text Fleet.Unicode

/-! ### Lines -/

/-- Where a reader of lines is. -/
inductive Place where
  | plain
  /-- Behind a blank, where a comment may begin. -/
  | blank
  | escape
  | double | doubleEscape
  | single | singleEscape
deriving DecidableEq, Repr

/-- The place behind a character, or none when a comment begins with it. -/
def Place.next? (p : Place) (c : Char) : Option Place :=
  match p with
  | .blank =>
    if c = '#' then none
    else some (if c = '\\' then .escape else if c = '\x22' then .double
      else if c = '\x27' then .single else .plain)
  | .plain =>
    some (if isBlank c && c ≠ '\n' && c ≠ '\r' then .blank else if c = '\\' then .escape
      else if c = '\x22' then .double else if c = '\x27' then .single else .plain)
  | .escape => some .plain
  | .double => some (if c = '\\' then .doubleEscape else if c = '\x22' then .plain else .double)
  | .doubleEscape => some .double
  | .single => some (if c = '\\' then .singleEscape else if c = '\x27' then .plain else .single)
  | .singleEscape => some .single

/-- The place behind a line, or else how many characters stand in front of its comment. -/
def scan (p : Place) (taken : Nat) : List Char → Place ⊕ Nat
  | [] => .inl p
  | c :: r =>
    match p.next? c with
    | none => .inr taken
    | some q => scan q (taken + 1) r

/-- The lines of a text with their line ends. -/
def physicalLines : List Char → List Char → List (List Char)
  | [], [] => []
  | line, [] => [line.reverse]
  | line, c :: r =>
    if c = '\n' then (c :: line).reverse :: physicalLines [] r else physicalLines (c :: line) r

def chomp (cs : List Char) : List Char :=
  match cs.reverse with
  | '\n' :: '\r' :: r => r.reverse
  | '\n' :: r => r.reverse
  | _ => cs

/-- Joins lines where a quoted text goes on.  A text that ends too early gives a line that
    cannot be read. -/
def join (begun : List Char) (p : Place) : List (List Char) → List (Option (List Char))
  | [] => if p = .plain then [] else [none]
  | l :: ls =>
    let whole := begun ++ l
    if (whole.dropWhile isBlank).head? = some '#' then join [] .plain ls
    else
      match scan p 0 l with
      | .inr n => some (begun ++ l.take n) :: join [] .plain ls
      | .inl .plain => some (chomp whole) :: join [] .plain ls
      | .inl q => join whole q ls

/-! ### Values -/

/-- What a reader of values is inside of. -/
inductive Spot where
  | bare | double | single
  /-- Behind the value, where only blanks and a comment may come. -/
  | tail
deriving DecidableEq, Repr

/-- A value that is being read, its characters in reverse. -/
structure Draft where
  out : List Char := []
  spot : Spot := .bare
  escaped : Bool := false
  /-- The name of a variable that is being read, in reverse, and whether it is in braces. -/
  name : Option (List Char × Bool) := none

/-- Brings in a variable; one that is not set is empty. -/
def Draft.bring (d : Draft) (env : Environment) (name : List Char) : Draft :=
  { d with
    out := ((env.get? (String.ofList name.reverse)).getD "").toList.reverse ++ d.out
    name := none }

def Draft.take? (env : Environment) (d : Draft) (c : Char) : Option Draft :=
  if d.spot = .tail then if c = ' ' || c = '\t' then some d else none
  else if d.escaped then
    if c = '\\' || c = '\x27' || c = '\x22' || c = '$' || c = ' ' then
      some { d with out := c :: d.out, escaped := false }
    else if c = 'n' then some { d with out := '\n' :: d.out, escaped := false }
    else none
  else if d.spot = .single then
    if c = '\x27' then some { d with spot := .bare } else some { d with out := c :: d.out }
  else
    match d.name with
    | some (name, true) =>
      if c = '\x7d' then some (d.bring env name) else some { d with name := some (c :: name, true) }
    | some (name, false) =>
      if isAlphanumeric c then some { d with name := some (c :: name, false) }
      else if c = '\x7b' && name.isEmpty then some { d with name := some ([], true) }
      else if c = '$' then some { d.bring env name with name := some ([], false) }
      else
        let d := d.bring env name
        some { d with out := c :: d.out }
    | none =>
      if c = '$' then some { d with name := some ([], false) }
      else if c = '\\' then some { d with escaped := true }
      else if d.spot = .double then
        if c = '\x22' then some { d with spot := .bare } else some { d with out := c :: d.out }
      else if c = '\x27' then some { d with spot := .single }
      else if c = '\x22' then some { d with spot := .double }
      else if c = ' ' || c = '\t' then some { d with spot := .tail }
      else some { d with out := c :: d.out }

/-- Takes characters in until a comment begins. -/
def Draft.takeAll? (env : Environment) (d : Draft) : List Char → Option Draft
  | [] => some d
  | c :: r =>
    if d.spot = .tail && c = '#' then some d
    else (d.take? env c).bind fun d' => d'.takeAll? env r

def value? (env : Environment) (cs : List Char) : Option String :=
  (Draft.takeAll? env {} cs).bind fun d =>
    match d.name with
    | some (_, true) => none
    | some (name, false) =>
      if d.spot = .double then none else some (String.ofList (d.bring env name).out.reverse)
    | none =>
      if d.spot = .double || d.spot = .single then none else some (String.ofList d.out.reverse)

/-! ### Assignments -/

/-- The name at the beginning of a text, and what follows the blanks behind it. -/
def name? (cs : List Char) : Option (List Char × List Char) :=
  match cs with
  | c :: _ =>
    if c.isAlpha || c = '_' then
      some (cs.takeWhile fun c => c.isAlphanum || c = '_' || c = '.',
        (cs.dropWhile fun c => c.isAlphanum || c = '_' || c = '.').dropWhile isBlank)
    else none
  | [] => none

/-- The name that is assigned to, and what follows the equals sign. -/
def target? (cs : List Char) : Option (List Char × List Char) :=
  match name? cs with
  | some (name, '=' :: r) => some (name, r)
  | some (name, r) =>
    if name = "export".toList then
      match name? r with
      | some (name, '=' :: r) => some (name, r)
      | _ => none
    else none
  | none => none

/-- Makes the assignment of a line, if there is one; none for a line that cannot be read. -/
def assign? (env : Environment) (line : List Char) : Option Environment :=
  let cs := strip isBlank line
  if cs.isEmpty || cs.head? = some '#' then some env
  else
    match target? cs with
    | none => none
    | some (name, r) =>
      let r := r.dropWhile isBlank
      let value := if r.isEmpty || r.head? = some '#' then some "" else value? env r
      value.map fun v =>
        let name := String.ofList name
        if (env.get? name).isSome then env else env ++ [(name, v)]

/-- Makes the assignments of the lines up to the first one that cannot be read. -/
def assignAll (env : Environment) : List (Option (List Char)) → Environment
  | [] | none :: _ => env
  | some line :: rest =>
    match assign? env line with
    | none => env
    | some env => assignAll env rest

/-- The variables together with those that a text sets. -/
def load (env : Environment) (text : String) : Environment :=
  let cs := match text.toList with
    | '\ufeff' :: r => r
    | r => r
  assignAll env (join [] .plain (physicalLines [] cs))

/-- Names of variables that a text may bring in. -/
def mentioned (text : String) : List String :=
  let cs := text.toList
  ((cs.splitOnP fun c => !isAlphanumeric c) ++ (cs.splitOnP fun c => c = '\x7b' || c = '\x7d')).map String.ofList

end Fleet.EnvFile
