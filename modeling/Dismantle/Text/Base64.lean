/-! Bytes written in letters, four letters for three bytes. What is no letter of the alphabet is
passed over; a text may not end inside a byte. -/
namespace Dismantle.Text.Base64

def sextet? (c : Char) : Option Nat :=
  if 'A' ≤ c ∧ c ≤ 'Z' then some (c.toNat - 65)
  else if 'a' ≤ c ∧ c ≤ 'z' then some (c.toNat - 71)
  else if '0' ≤ c ∧ c ≤ '9' then some (c.toNat + 4)
  else if c = '+' then some 62
  else if c = '/' then some 63
  else none

/-- Letters read in the current group of four, the bits of the last one that belong to no byte
yet, and the padding seen since. -/
structure Group where
  letters : Nat := 0
  bits : Nat := 0
  padding : Nat := 0

/-- Takes one letter: the group after it and the byte that it completes. -/
def Group.push (g : Group) (six : Nat) : Group × Option UInt8 :=
  match g.letters with
  | 0 => ({ letters := 1, bits := six }, none)
  | 1 => ({ letters := 2, bits := six % 16 }, some (.ofNat (4 * g.bits + six / 16)))
  | 2 => ({ letters := 3, bits := six % 4 }, some (.ofNat (16 * g.bits + six / 4)))
  | _ => ({}, some (.ofNat (64 * g.bits + six)))

/-- Padding that completes a group ends the reading. -/
def decodeFrom (g : Group) : List Char → Option (List UInt8)
  | [] => if g.letters = 0 then some [] else none
  | c :: rest =>
    if c = '=' then
      if 2 ≤ g.letters then
        if 4 ≤ g.letters + g.padding + 1 then some []
        else decodeFrom { g with padding := g.padding + 1 } rest
      else decodeFrom g rest
    else match sextet? c with
      | none => decodeFrom g rest
      | some six =>
        let (g, byte) := g.push six
        (decodeFrom g rest).map (byte.toList ++ ·)

def decode (cs : List Char) : Option (List UInt8) := decodeFrom {} cs

end Dismantle.Text.Base64
