/-
  Fleet/Json/Basic.lean
  =====================
  **JSON values.**

  Numbers are integers of 64 bits or doubles (held as their bits).  The fields of an object
  are a list of pairs which `insert` keeps in ascending order of the keys and without
  repetitions; looking up a key after an insertion gives the inserted value, and no other key
  changes (`get?_insert`).
-/
import Fleet.Json.Double

namespace Fleet

inductive Json.Number where
  /-- An integer that fits into 64 bits, with or without a sign. -/
  | int (i : Int)
  /-- A double, as its bits. -/
  | double (bits : UInt64)
deriving DecidableEq, Repr

inductive Json where
  | null
  | bool (b : Bool)
  | num (n : Json.Number)
  | str (s : String)
  | arr (items : List Json)
  | obj (fields : List (String × Json))
deriving Repr, BEq, Inhabited

namespace Json

abbrev Fields := List (String × Json)

namespace Fields

def get? (k : String) : Fields → Option Json
  | [] => none
  | (k', v) :: r => if k = k' then some v else get? k r

def has (k : String) (o : Fields) : Bool := (o.get? k).isSome

/-- Puts a value at a key, replacing the one that is there. -/
def insert (k : String) (v : Json) : Fields → Fields
  | [] => [(k, v)]
  | (k', v') :: r =>
    if k = k' then (k, v) :: r
    else if k < k' then (k, v) :: (k', v') :: r
    else (k', v') :: insert k v r

/-- Fields from pairs of which a later one replaces an earlier one with the same key. -/
def ofList (ps : List (String × Json)) : Fields :=
  ps.foldl (fun o p => o.insert p.1 p.2) []

@[simp] theorem get?_insert (k k' : String) (v : Json) (o : Fields) :
    (o.insert k v).get? k' = if k' = k then some v else o.get? k' := by
  induction o with
  | nil => simp [insert, get?]
  | cons p r ih =>
    obtain ⟨q, w⟩ := p
    unfold insert
    by_cases h : k = q
    · subst h; by_cases hk : k' = k <;> simp [get?, hk]
    · by_cases hl : k < q
      · by_cases hk : k' = k <;> simp [get?, h, hl, hk]
      · by_cases hk : k' = k
        · subst hk; simp [get?, h, hl, ih]
        · simp [get?, h, hl, ih, hk]

end Fields

def str? : Json → Option String
  | .str s => some s
  | _ => none

def get? (j : Json) (k : String) : Option Json :=
  match j with
  | .obj o => Fields.get? k o
  | _ => none

def kindName : Json → String
  | .null => "null"
  | .bool _ => "boolean"
  | .num _ => "number"
  | .str _ => "string"
  | .arr _ => "array"
  | .obj _ => "object"

end Json

end Fleet
