/-!
# Base sixty-four

Octets written as characters that stand for six bits each, four characters for three octets.

* `sextet?`: the six bits of a character.
* `decode`: the octets of a text. Characters that stand for no bits are passed over, and nothing
  is read after padding that completes a group of four.
-/

namespace SymbolText.Text.Base64

/-- The six bits that a character stands for. -/
def sextet? (c : Char) : Option Nat :=
  if 'A' ≤ c ∧ c ≤ 'Z' then some (c.toNat - 'A'.toNat)
  else if 'a' ≤ c ∧ c ≤ 'z' then some (c.toNat - 'a'.toNat + 26)
  else if c.isDigit then some (c.toNat - '0'.toNat + 52)
  else if c = '+' then some 62
  else if c = '/' then some 63
  else none

/-- The octets of a text, where `place` characters of the group have been read, `bits` are left
of the last one, and `pads` padding marks came just before. A group that is begun has to be
completed. -/
def decodeFrom (place bits pads : Nat) : List Char → Option (List UInt8)
  | [] => if place = 0 then some [] else none
  | c :: rest =>
    if c = '=' then
      if place < 2 then decodeFrom place bits pads rest
      else if 4 ≤ place + pads + 1 then some []
      else decodeFrom place bits (pads + 1) rest
    else
      match sextet? c, place with
      | none, _ => decodeFrom place bits pads rest
      | some six, 0 => decodeFrom 1 six 0 rest
      | some six, 1 => (decodeFrom 2 (six % 16) 0 rest).map (UInt8.ofNat (bits * 4 + six / 16) :: ·)
      | some six, 2 => (decodeFrom 3 (six % 4) 0 rest).map (UInt8.ofNat (bits * 16 + six / 4) :: ·)
      | some six, _ => (decodeFrom 0 0 0 rest).map (UInt8.ofNat (bits * 64 + six) :: ·)

/-- The octets that a text stands for; none if its last group is not complete. -/
def decode (text : List Char) : Option (List UInt8) := decodeFrom 0 0 0 text

end SymbolText.Text.Base64
