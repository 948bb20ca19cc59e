import SymbolText.Error

/-!
# Integers that values denote

A value is read as an integer: truth values are one and zero, fractions lose their fractional
part, and texts and octets are read as numerals of a base.

* `Value.toInteger`: the integer of a value, where numerals are decimal.
* `Value.toIntegerIn`: the integer of a numeral in a base.
* `integerOfParts`: the integer of a value alone or of a numeral with its base.
-/

namespace SymbolText

/-- The longest literal that a message about a numeral shows. -/
def maxShownLiteral : Nat := 200

/-- The integer that characters with a literal denote in a base. -/
def integerOfChars (base : Nat) (chars literal : List Char) : Except Error Int :=
  match Numeral.readIn base chars with
  | .ok n => .ok n
  | .error .malformed =>
    .error (.malformedInteger base (String.ofList (literal.take maxShownLiteral)))
  | .error (.tooLong digits) => .error (.numeralTooLong digits)

/-- The integer that a text denotes in a base; a surrogate is no part of a numeral. -/
def integerOfText (base : Nat) (text : Text) : Except Error Int :=
  integerOfChars base (text.map CodePoint.toChar) (Text.Literal.ofText text)

/-- The integer that octets denote in a base; an octet above ASCII is no part of a numeral. -/
def integerOfOctets (base : Nat) (octets : List UInt8) : Except Error Int :=
  integerOfChars base (octets.map fun b => if b < 0x80 then Char.ofNat b.toNat else '?')
    (Text.Literal.ofOctets (octets.take maxShownLiteral))

namespace Value

/-- The integer that a value can be read as (`int`). -/
def toInteger : Value → Except Error Int
  | .bool b => .ok (if b then 1 else 0)
  | .int n => .ok n
  | .float .nan => .error .integerOfNaN
  | .float x =>
    match x.truncate? with
    | some n => .ok n
    | none => .error .integerOfInfinity
  | .text s => integerOfText 10 s
  | .bytes octets => integerOfOctets 10 octets
  | v => .error (.notNumeric v.typeName)

/-- The greatest base of numerals. -/
def maxBase : Int := 36

/-- The base that a value is: zero for the one that a numeral is marked with. -/
def toBase : Value → Except Error Nat
  | .bool b => ofInt (if b then 1 else 0)
  | .int n => ofInt n
  | v => .error (.baseType v.typeName)
where
  /-- The base that an integer is. -/
  ofInt (n : Int) : Except Error Nat :=
    if n = 0 ∨ (2 ≤ n ∧ n ≤ maxBase) then .ok n.toNat else .error .baseRange

/-- The integer that a numeral denotes in a base. -/
def toIntegerIn (v base : Value) : Except Error Int := do
  let base ← base.toBase
  match v with
  | .text s => integerOfText base s
  | .bytes octets => integerOfOctets base octets
  | _ => .error .baseWithoutNumeral

end Value

/-- The integer that some parts make: none is zero, one is read as it is, and two are a numeral
and its base. -/
def integerOfParts : List Value → Except Error Int
  | [] => .ok 0
  | [v] => v.toInteger
  | [v, base] => v.toIntegerIn base
  | parts => .error (.integerParts parts.length)

end SymbolText
