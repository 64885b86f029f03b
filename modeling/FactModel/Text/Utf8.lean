import FactModel.Text.Quoted

/-!
# Reading UTF-8

A character is a lead byte and up to three tails.  The lead byte fixes the number of tails and the
range of the first one; the other tails lie between `0x80` and `0xBF`.
-/

namespace FactModel.Text.Utf8

/-- Why bytes are no text. -/
inductive Reason where
  /-- A byte that begins no character. -/
  | start
  /-- A byte that does not continue the character before it. -/
  | tail
  /-- The bytes end inside a character. -/
  | ended
  deriving DecidableEq, Repr

/-- Bytes that are no text: where they stand, how many they are, and the first of them. -/
structure Error where
  position : Nat
  length : Nat
  first : Nat
  reason : Reason
  deriving DecidableEq, Repr

/-- The wording of a reason. -/
def Reason.message : Reason → String
  | .start => "invalid start byte"
  | .tail => "invalid continuation byte"
  | .ended => "unexpected end of data"

/-- The wording of an error. -/
def Error.message (e : Error) : String :=
  let reason := e.reason.message
  let code := String.ofList (hex 2 e.first)
  let place :=
    if e.length = 1 then s!"byte 0x{code} in position {e.position}"
    else s!"bytes in position {e.position}-{e.position + e.length - 1}"
  "'utf-8' codec can't decode " ++ place ++ ": " ++ reason

/-- What a lead byte says about its character. -/
structure Lead where
  /-- The number of tails. -/
  tails : Nat
  /-- The least first tail. -/
  low : Nat
  /-- The greatest first tail. -/
  high : Nat
  /-- The bits of the code point that the lead byte holds. -/
  bits : Nat
  deriving DecidableEq, Repr

/-- What a byte says as a lead byte, unless it begins no character. -/
def lead? (b : Nat) : Option Lead :=
  if b < 0x80 then some { tails := 0, low := 0, high := 0, bits := b }
  else if b < 0xC2 then none
  else if b < 0xE0 then some { tails := 1, low := 0x80, high := 0xBF, bits := b - 0xC0 }
  else if b < 0xF0 then
    let low := if b = 0xE0 then 0xA0 else 0x80
    let high := if b = 0xED then 0x9F else 0xBF
    some { tails := 2, low, high, bits := b - 0xE0 }
  else if b < 0xF5 then
    let low := if b = 0xF0 then 0x90 else 0x80
    let high := if b = 0xF4 then 0x8F else 0xBF
    some { tails := 3, low, high, bits := b - 0xF0 }
  else none

/-- A character of which some bytes are read. -/
structure Partial where
  position : Nat
  first : Nat
  /-- The number of bytes read. -/
  read : Nat
  /-- The number of tails to come. -/
  missing : Nat
  low : Nat
  high : Nat
  bits : Nat
  deriving DecidableEq, Repr

/-- The error that a character is not completed. -/
def Partial.error (p : Partial) (reason : Reason) : Error :=
  { position := p.position, length := p.read, first := p.first, reason }

/-- A character with one more of its tails read. -/
def Partial.extend (p : Partial) (tail : Nat) : Partial :=
  { p with
    read := p.read + 1, missing := p.missing - 1, low := 0x80, high := 0xBF
    bits := p.bits * 64 + (tail - 0x80) }

/-- Reads the bytes from a position on, perhaps inside a character. -/
def decodeFrom (position : Nat) (part : Option Partial) : List Nat → Except Error (List Char)
  | [] =>
    match part with
    | none => .ok []
    | some p => .error (p.error .ended)
  | b :: bs =>
    match part with
    | none =>
      match lead? b with
      | none => .error { position, length := 1, first := b, reason := .start }
      | some l =>
        if l.tails = 0 then (decodeFrom (position + 1) none bs).map (Char.ofNat b :: ·)
        else
          decodeFrom (position + 1)
            (some { position, first := b, read := 1, missing := l.tails, low := l.low,
                    high := l.high, bits := l.bits }) bs
    | some p =>
      if b < p.low ∨ p.high < b then .error (p.error .tail)
      else
        let p := p.extend b
        if p.missing = 0 then (decodeFrom (position + 1) none bs).map (Char.ofNat p.bits :: ·)
        else decodeFrom (position + 1) (some p) bs

/-- The text that bytes denote. -/
def decode (bytes : List Nat) : Except Error String :=
  (decodeFrom 0 none bytes).map String.ofList

/-- Bytes below `0x80` are characters of their own. -/
theorem decodeFrom_ascii {bytes : List Nat} (ascii : ∀ b ∈ bytes, b < 0x80) (position : Nat) :
    decodeFrom position none bytes = .ok (bytes.map Char.ofNat) := by
  induction bytes generalizing position with
  | nil => rfl
  | cons b bs ih =>
    have low : b < 0x80 := ascii b (by simp)
    have rest : ∀ c ∈ bs, c < 0x80 := fun c found => ascii c (by simp [found])
    simp [decodeFrom, lead?, low, ih rest, Except.map]

end FactModel.Text.Utf8
