/-! Text in bytes. A character's first byte says which bytes may follow it, so a fault is found
at the first byte that no character can continue with, and names the bytes of that character. -/
namespace Dismantle.Text.Utf8

inductive Reason where
  | badStart | badContinuation | truncated
  deriving DecidableEq, Repr

/-- The bytes from `first` to `last` form no character. -/
structure Fault where
  reason : Reason
  first : Nat
  last : Nat
  byte : UInt8
  deriving DecidableEq, Repr

/-- A character whose first bytes have been read: where it starts, its first byte, its bits so
far, and the ranges the next bytes must lie in. -/
structure Pending where
  start : Nat
  lead : UInt8
  bits : Nat
  next : Nat × Nat
  later : List (Nat × Nat)

def tailRange : Nat × Nat := (0x80, 0xbf)

/-- What a first byte of several announces: its bits and the ranges of the bytes to come. -/
def announced (b : Nat) : Option (Nat × (Nat × Nat) × List (Nat × Nat)) :=
  if 0xc2 ≤ b ∧ b ≤ 0xdf then some (b - 0xc0, tailRange, [])
  else if b = 0xe0 then some (0, (0xa0, 0xbf), [tailRange])
  else if b = 0xed then some (0xd, (0x80, 0x9f), [tailRange])
  else if 0xe1 ≤ b ∧ b ≤ 0xef then some (b - 0xe0, tailRange, [tailRange])
  else if b = 0xf0 then some (0, (0x90, 0xbf), [tailRange, tailRange])
  else if b = 0xf4 then some (4, (0x80, 0x8f), [tailRange, tailRange])
  else if 0xf1 ≤ b ∧ b ≤ 0xf3 then some (b - 0xf0, tailRange, [tailRange, tailRange])
  else none

/-- `place` counts the bytes read; `done` holds the characters read, last first. -/
def scan : List UInt8 → (place : Nat) → Option Pending → (done : List Char) →
    Except Fault (List Char)
  | [], _, none, done => .ok done.reverse
  | [], place, some p, _ => .error ⟨.truncated, p.start, place - 1, p.lead⟩
  | b :: rest, place, none, done =>
    if b.toNat < 0x80 then scan rest (place + 1) none (Char.ofNat b.toNat :: done)
    else match announced b.toNat with
      | none => .error ⟨.badStart, place, place, b⟩
      | some (bits, next, later) => scan rest (place + 1) (some ⟨place, b, bits, next, later⟩) done
  | b :: rest, place, some p, done =>
    if p.next.1 ≤ b.toNat ∧ b.toNat ≤ p.next.2 then
      let bits := 64 * p.bits + (b.toNat - 0x80)
      match p.later with
      | [] => scan rest (place + 1) none (Char.ofNat bits :: done)
      | next :: later => scan rest (place + 1) (some { p with bits, next, later }) done
    else .error ⟨.badContinuation, p.start, place - 1, p.lead⟩

def decode (bytes : List UInt8) : Except Fault (List Char) := scan bytes 0 none []

def encodeChar (c : Char) : List UInt8 :=
  let n := c.toNat
  let low (m : Nat) : UInt8 := .ofNat (0x80 + m % 64)
  if n < 0x80 then [.ofNat n]
  else if n < 0x800 then [.ofNat (0xc0 + n / 64), low n]
  else if n < 0x10000 then [.ofNat (0xe0 + n / 4096), low (n / 64), low n]
  else [.ofNat (0xf0 + n / 262144), low (n / 4096), low (n / 64), low n]

def encode (cs : List Char) : List UInt8 := cs.flatMap encodeChar

end Dismantle.Text.Utf8
