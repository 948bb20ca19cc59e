import SymbolText.Text.Line
import SymbolText.Text.Utf8

/-!
# Texts in pieces

The text of octets is delivered in pieces of a fixed number of characters, with line feeds for all
line ends. For each piece as many portions of the octets are decoded as it needs. So octets that are
not UTF-8 show only after the pieces before have been delivered, and their position is counted from
the start of their portion.

* `Interruption`: what is delivered before octets turn out not to be UTF-8.
* `Delivery`, `Delivery.run`: decoding portion by portion.
* `Delivery.arrival`: what has to be looked at for a character to be delivered.
* `deliver`: the whole text of octets.
-/

namespace SymbolText.Text

/-- What is delivered before octets turn out not to be UTF-8. -/
structure Interruption where
  delivered : List Char
  failure : Utf8.Failure

/-- What has been decoded. -/
structure Delivery where
  text : Array Char
  /-- The octets of a character that the end of a portion cuts off. -/
  cut : List UInt8
  /-- A carriage return came last, which is not in the text yet: a line feed may follow it. -/
  held : Bool
  /-- The number of octets of the last portion. -/
  octets : Nat
  /-- The number of characters of the last portion. -/
  characters : Nat

namespace Delivery

/-- The number of characters of a piece. -/
def pieceSize : Nat := 4096

/-- The number of characters that are delivered before any is looked at: two pieces. -/
def readAhead : Nat := 2 * pieceSize

/-- The number of characters before the one that has to be looked at for the character after `n`
others to be delivered: the first of its piece, unless that is delivered in any case. -/
def arrival (n : Nat) : Nat := if n < readAhead then 0 else n - n % pieceSize

/-- The least number of octets of a portion. -/
def leastPortion : Nat := 8192

/-- Nothing. -/
def start : Delivery := ⟨#[], [], false, 0, 0⟩

/-- The number of characters in complete pieces. -/
def complete (d : Delivery) : Nat := d.text.size - d.text.size % pieceSize

/-- The number of octets of the next portion: as many as the next piece needs if they give as many
characters as those of the last portion did. -/
def portion (d : Delivery) : Nat :=
  max leastPortion (d.octets * (d.complete + pieceSize - d.text.size) / d.characters)

theorem portion_pos (d : Delivery) : 0 < d.portion :=
  Nat.lt_of_lt_of_le (by decide) (Nat.le_max_left _ _)

/-- Adds the text of a portion of some octets. -/
def add (d : Delivery) (octets : Nat) (text : List Char) (cut : List UInt8) : Delivery :=
  let text := if d.held then '\r' :: text else text
  let held := text.getLast? == some '\r'
  let text := unifyLineEnds (if held then text.dropLast else text)
  { text := d.text ++ text.toArray, cut, held, octets, characters := text.length }

/-- The interruption by a failure to decode the next portion. -/
def interrupt (d : Delivery) (f : Utf8.Failure) : Interruption :=
  ⟨(d.text.extract 0 d.complete).toList, f⟩

/-- The whole text when some octets follow. -/
def run (d : Delivery) (octets : List UInt8) : Except Interruption (List Char) :=
  if octets = [] then
    match Utf8.decode d.cut with
    | .ok _ => .ok (d.text.toList ++ if d.held then ['\n'] else [])
    | .error f => .error (d.interrupt f)
  else
    let next := octets.take d.portion
    match Utf8.decodePortion (d.cut ++ next) with
    | .ok (text, cut) => (d.add next.length text cut).run (octets.drop d.portion)
    | .error f => .error (d.interrupt f)
termination_by octets.length
decreasing_by
  have := d.portion_pos
  have := List.length_pos_iff.2 ‹¬octets = []›
  simp only [List.length_drop]
  omega

end Delivery

/-- The text of octets, with line feeds for all line ends (`open`). -/
def deliver (octets : List UInt8) : Except Interruption (List Char) := Delivery.start.run octets

end SymbolText.Text
