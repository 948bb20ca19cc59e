import SymbolText.Error

/-!
# Packed texts

A sequence of texts is stored as their concatenation with the offsets of their boundaries, which
are kept in the narrowest of three unsigned widths.

Models of `offset_width` and `PackedText`.

* `offsetWidth`: the least width for a number.
* `PackedText.pack`: packs texts.
* `PackedText.slice?`: one text; indices below zero count from the end of the offsets.
-/

namespace SymbolText

/-- The bits of the narrowest offset type that holds `n`, of 8, 16 and 32 (`offset_width`). -/
def offsetWidth (n : Int) : Nat := if n < 256 then 8 else if n < 65536 then 16 else 32

/-- Concatenated texts with the offsets of their boundaries (`PackedText`). -/
structure PackedText where
  blob : Array CodePoint
  offsets : Array Nat
  deriving DecidableEq

namespace PackedText

/-- The offsets after `start` of texts of the given lengths. -/
def boundaries (start : Nat) : List Nat → List Nat
  | [] => [start]
  | n :: rest => start :: boundaries (start + n) rest

/-- Packs texts in order (`PackedText.pack`). -/
def pack (texts : List Text) : PackedText :=
  { blob := texts.flatten.toArray
    offsets := (boundaries 0 (texts.map List.length)).toArray }

/-- The number of texts (`PackedText.__len__`). -/
def size (p : PackedText) : Nat := p.offsets.size - 1

/-- The width of the offsets (`PackedText.width`). -/
def width (p : PackedText) : Nat := offsetWidth (p.offsets.back?.getD 0)

/-- The offset at an index, where indices below zero count from the end. -/
def offset? (p : PackedText) (i : Int) : Option Nat :=
  let j := if i < 0 then i + p.offsets.size else i
  if j < 0 then none else p.offsets[j.toNat]?

/-- The text at an index. -/
def slice? (p : PackedText) (i : Int) : Option Text :=
  match p.offset? i, p.offset? (i + 1) with
  | some start, some stop => some (p.blob.extract start stop).toList
  | _, _ => none

/-- The text at an index, which has to be there (`PackedText.slice`); an index that is no signed
word is none at all. -/
def slice (p : PackedText) (i : Int) : Except Error Text :=
  match p.slice? i with
  | some text => .ok text
  | none =>
    .error (if Word64.minSigned ≤ i ∧ i ≤ Word64.maxSigned then .packedIndex else .indexBeyondWords)

end PackedText

end SymbolText
