/-!
# Binary floating-point numbers

The numbers of the 64-bit binary format: not-a-number, the two infinities, and the finite
numbers `± significand · 2 ^ exponent`. All arithmetic on them is exact arithmetic on natural
numbers followed by one rounding to the nearest, a tie going to the even neighbour.

* `roundDiv`: a quotient rounded to the nearest natural number.
* `Binary64.ofRatio`: the number nearest to a quotient.
* `Binary64.ofDecimal`: the number nearest to a decimal fraction.
* `Binary64.ofInt?`, `Binary64.truncate?`: conversion from and to integers.
-/

namespace SymbolText

/-- `num / den` rounded to the nearest natural number, a tie going to the even one. -/
def roundDiv (num den : Nat) : Nat :=
  let q := num / den
  let r := num % den
  if 2 * r < den then q
  else if den < 2 * r then q + 1
  else if q % 2 = 0 then q else q + 1

/-- A number of the 64-bit binary format. A finite number has its significand below `2 ^ 53`
and its exponent at least `-1074`, and the significand is at least `2 ^ 52` unless the exponent
is `-1074`, so that equal numbers have equal parts. -/
inductive Binary64
  | nan
  | infinity (negative : Bool)
  | finite (negative : Bool) (significand : Nat) (exponent : Int)
  deriving DecidableEq, Repr

namespace Binary64

/-- The least exponent of a finite number. -/
def minExponent : Int := -1074

/-- The greatest exponent of a finite number. -/
def maxExponent : Int := 971

/-- The zero of a sign. -/
def zero (negative : Bool) : Binary64 := .finite negative 0 minExponent

/-- `num / den` as a quotient of natural numbers after multiplication by `2 ^ shift`. -/
def scaleTwo (num den : Nat) (shift : Int) : Nat × Nat :=
  if 0 ≤ shift then (num * Nat.pow 2 shift.toNat, den)
  else (num, den * Nat.pow 2 (-shift).toNat)

/-- The greatest `e` with `2 ^ e ≤ num / den`, for a positive quotient. -/
def floorLog2 (num den : Nat) : Int :=
  let e := (Nat.log2 num : Int) - Nat.log2 den
  let (n, d) := scaleTwo num den (-e)
  if d ≤ n then e else e - 1

/-- The number of sign `negative` nearest to `num / den`, for `0 < den`. -/
def ofRatio (negative : Bool) (num den : Nat) : Binary64 :=
  if num = 0 then zero negative
  else
    let exponent := max (floorLog2 num den - 52) minExponent
    let (n, d) := scaleTwo num den (-exponent)
    let significand := roundDiv n d
    let (significand, exponent) :=
      if significand = Nat.pow 2 53 then (Nat.pow 2 52, exponent + 1) else (significand, exponent)
    if maxExponent < exponent then .infinity negative
    else .finite negative significand exponent

/-- The number nearest to `± digits · 10 ^ scale`, where `digits` has `count` decimal digits.
Beyond the magnitudes that matter the answer is infinite or zero without computing the
power. -/
def ofDecimal (negative : Bool) (digits count : Nat) (scale : Int) : Binary64 :=
  if digits = 0 then zero negative
  else if 400 < scale + count then .infinity negative
  else if scale + count < -400 then zero negative
  else if 0 ≤ scale then ofRatio negative (digits * Nat.pow 10 scale.toNat) 1
  else ofRatio negative digits (Nat.pow 10 (-scale).toNat)

/-- The number nearest to an integer, unless it exceeds all finite numbers. -/
def ofInt? (n : Int) : Option Binary64 :=
  match ofRatio (decide (n < 0)) n.natAbs 1 with
  | .finite negative significand exponent => some (.finite negative significand exponent)
  | _ => none

/-- The magnitude of a finite number as a quotient. -/
def ratio (significand : Nat) (exponent : Int) : Nat × Nat := scaleTwo significand 1 exponent

/-- The integer part of a number, rounding toward zero; `none` for what is not finite. -/
def truncate? : Binary64 → Option Int
  | .finite negative significand exponent =>
    let (num, den) := ratio significand exponent
    some (if negative then -((num / den : Nat) : Int) else (num / den : Nat))
  | _ => none

/-- The integer that a number equals, if any. -/
def toInt? (x : Binary64) : Option Int :=
  match x with
  | .finite _ significand exponent =>
    let (num, den) := ratio significand exponent
    if num % den = 0 then x.truncate? else none
  | _ => none

/-- Whether a number is zero, of either sign. -/
def isZero : Binary64 → Bool
  | .finite _ 0 _ => true
  | _ => false

/-- Numeric equality: zero has no sign, and what is not a number equals nothing. -/
def same : Binary64 → Binary64 → Bool
  | .nan, _ => false
  | x, y => (x.isZero && y.isZero) || decide (x = y)

end Binary64

end SymbolText
