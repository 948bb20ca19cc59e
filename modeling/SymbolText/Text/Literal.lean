import SymbolText.Text.CodePoint
import SymbolText.Text.Printable

/-!
# Literals of texts and octets

A literal shows a text between quotes such that every code point can be told: backslashes, the
quote in use, surrogates and characters that are not printable are escaped.

* `quoteMark`: single quotes, unless the text holds one and no double quote.
* `ofText`, `ofOctets`: the literals of a text and of octets.
* `toAscii`: a text with everything above ASCII escaped.
-/

namespace SymbolText.Text.Literal

/-- The lower-case hexadecimal digits of `n`, padded with zeros to a width. -/
def hex (width n : Nat) : List Char :=
  let digits := Nat.toDigits 16 n
  List.replicate (width - digits.length) '0' ++ digits

/-- The escape of a code point by its number: two, four or eight digits. -/
def numeric (n : Nat) : List Char :=
  if n < 0x100 then '\\' :: 'x' :: hex 2 n
  else if n < 0x10000 then '\\' :: 'u' :: hex 4 n
  else '\\' :: 'U' :: hex 8 n

/-- The quote that a literal is written with, given whether single and double quotes occur. -/
def quoteMark (single double : Bool) : Char := if single && !double then '"' else '\''

/-- The escapes that texts and octets share. -/
def shared? (mark c : Char) : Option (List Char) :=
  if c = mark ∨ c = '\\' then some ['\\', c]
  else if c = '\n' then some ['\\', 'n']
  else if c = '\r' then some ['\\', 'r']
  else if c = '\t' then some ['\\', 't']
  else none

/-- A character inside a literal. -/
def character (mark c : Char) : List Char :=
  (shared? mark c).getD (if isPrintable c then [c] else numeric c.toNat)

/-- A code point inside a literal. -/
def codePoint (mark : Char) : CodePoint → List Char
  | .char c => character mark c
  | p => numeric p.number

/-- The literal of a text. -/
def ofText (text : Text) : List Char :=
  let mark := quoteMark (text.contains (.char '\'')) (text.contains (.char '"'))
  mark :: (text.flatMap (codePoint mark) ++ [mark])

/-- An octet inside a literal. -/
def octet (mark : Char) (b : UInt8) : List Char :=
  let c := Char.ofNat b.toNat
  (shared? mark c).getD
    (if 0x20 ≤ b.toNat ∧ b.toNat < 0x7f then [c] else '\\' :: 'x' :: hex 2 b.toNat)

/-- The literal of octets. -/
def ofOctets (octets : List UInt8) : List Char :=
  let mark := quoteMark (octets.contains 0x27) (octets.contains 0x22)
  'b' :: mark :: (octets.flatMap (octet mark) ++ [mark])

/-- The text with every character above ASCII escaped by its number. -/
def toAscii (text : List Char) : List Char :=
  text.flatMap fun c => if c.toNat < 0x80 then [c] else numeric c.toNat

/-- The literal of a string (`repr`). -/
def ofString (s : String) : String := String.ofList (ofText (.ofString s))

end SymbolText.Text.Literal
