/-
  Fleet/Text/Utf8.lean
  ====================
  **Bytes as text.**

  Bytes are text when each character is written in the shortest form and none is a surrogate.
  Bytes that are not can be refused, with the place and the length of the first part that
  fits no character (`decode`), or read with a replacement character for each such part
  (`decodeLossy`).

  A part that fits no character is as long as it could still have been the begin of one.
-/

namespace Fleet.Text.Utf8

structure Flaw where
  index : Nat
  /-- The number of bytes that fit no character; none when the bytes end inside of one. -/
  length : Option Nat
deriving DecidableEq, Repr

def Flaw.message (f : Flaw) : String :=
  match f.length with
  | some n => "invalid utf-8 sequence of " ++ toString n ++ " bytes from index " ++ toString f.index
  | none => "incomplete utf-8 byte sequence from index " ++ toString f.index

inductive Piece where
  /-- A character, with the number of bytes behind its first one. -/
  | character (c : Char) (more : Nat)
  /-- A part that fits no character, with the number of bytes behind its first one. -/
  | broken (more : Nat)
  /-- The begin of a character, and nothing else. -/
  | cut
deriving DecidableEq, Repr

/-- How many bytes follow a first byte, and between which bounds the next one lies. -/
def shape? (b : UInt8) : Option (Nat × UInt8 × UInt8) :=
  if b < 0x80 then some (0, 0x80, 0xBF)
  else if b < 0xC2 then none
  else if b < 0xE0 then some (1, 0x80, 0xBF)
  else if b < 0xF0 then
    some (2, if b = 0xE0 then 0xA0 else 0x80, if b = 0xED then 0x9F else 0xBF)
  else if b < 0xF5 then
    some (3, if b = 0xF0 then 0x90 else 0x80, if b = 0xF4 then 0x8F else 0xBF)
  else none

/-- How many of the next `k` bytes continue a character, the first of them being one from
    `lo` to `hi`. -/
def matched : Nat → UInt8 → UInt8 → List UInt8 → Nat
  | 0, _, _, _ => 0
  | _ + 1, _, _, [] => 0
  | k + 1, lo, hi, b :: bs => if lo ≤ b && b ≤ hi then matched k 0x80 0xBF bs + 1 else 0

/-- The character with this first byte and these bytes behind it. -/
def assemble (b : UInt8) (bs : List UInt8) : Char :=
  let first := match bs.length with
    | 0 => b.toNat
    | 1 => b.toNat % 32
    | 2 => b.toNat % 16
    | _ => b.toNat % 8
  Char.ofNat (bs.foldl (fun n c => 64 * n + c.toNat % 64) first)

/-- What the bytes `b :: bs` begin with. -/
def piece (b : UInt8) (bs : List UInt8) : Piece :=
  match shape? b with
  | none => .broken 0
  | some (k, lo, hi) =>
    let m := matched k lo hi bs
    if m = k then .character (assemble b (bs.take k)) k
    else if m = bs.length then .cut
    else .broken m

/-- The characters that bytes stand for, the first byte having index `i`. -/
def read (i : Nat) : List UInt8 → Except Flaw (List Char)
  | [] => .ok []
  | b :: bs =>
    match piece b bs with
    | .character c k => (read (i + k + 1) (bs.drop k)).map (c :: ·)
    | .broken k => .error ⟨i, some (k + 1)⟩
    | .cut => .error ⟨i, none⟩
termination_by bs => bs.length

/-- The characters that bytes stand for, with a replacement for each part that fits none. -/
def readLossy : List UInt8 → List Char
  | [] => []
  | b :: bs =>
    match piece b bs with
    | .character c k => c :: readLossy (bs.drop k)
    | .broken k => '\ufffd' :: readLossy (bs.drop k)
    | .cut => ['\ufffd']
termination_by bs => bs.length

def decode (bs : List UInt8) : Except Flaw String := (read 0 bs).map String.ofList

/-- The text that bytes stand for, as far as they do. -/
def decodeLossy (bs : List UInt8) : String := String.ofList (readLossy bs)

end Fleet.Text.Utf8
