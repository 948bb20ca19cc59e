import SymbolText.Number.Binary64

/-!
# Decimal digits of quotients

Every way of writing a binary number in decimal starts with choosing digits. Each choice here
is exact arithmetic on a positive quotient `num / den`.

* `floorLog10`: the place of the leading digit.
* `roundToPlace`: the nearest multiple of a power of ten.
* `significant`: a given number of leading digits.
* `shortest`: the fewest digits that no other binary number is nearer to.
-/

namespace SymbolText.Decimal

/-- Decimal digits, the most significant first, with the position of the decimal point counted
from before the first digit: `digits = "123"` and `point = 1` are `1.23`. -/
structure Expansion where
  digits : List Char
  point : Int
  deriving DecidableEq, Repr

/-- `num / den` as a quotient of natural numbers after multiplication by `10 ^ shift`. -/
def scaleTen (num den : Nat) (shift : Int) : Nat × Nat :=
  if 0 ≤ shift then (num * Nat.pow 10 shift.toNat, den)
  else (num, den * Nat.pow 10 (-shift).toNat)

/-- The number of decimal digits of a natural number. -/
def digitCount (n : Nat) : Nat := (Nat.toDigits 10 n).length

/-- The greatest `k` with `10 ^ k ≤ num / den`, for a positive quotient. -/
def floorLog10 (num den : Nat) : Int :=
  if den ≤ num then (digitCount (num / den) : Int) - 1
  else
    let ceiling := (den + num - 1) / num
    Int.negOfNat (digitCount (ceiling - 1))

/-- The multiple of `10 ^ place` nearest to `num / den`, in units of `10 ^ place`; a tie goes
to the even one. -/
def roundToPlace (num den : Nat) (place : Int) : Nat :=
  let (n, d) := scaleTen num den (-place)
  roundDiv n d

/-- The expansion of `units · 10 ^ place`. -/
def ofUnits (units : Nat) (place : Int) : Expansion :=
  let digits := Nat.toDigits 10 units
  ⟨digits, place + digits.length⟩

/-- The first `count` digits of a positive quotient, rounded. -/
def significant (num den count : Nat) : Expansion :=
  let place := floorLog10 num den - count + 1
  let units := roundToPlace num den place
  if units = Nat.pow 10 count then ofUnits (units / 10) (place + 1) else ofUnits units place

/-- The expansion without zeros at the end. -/
def Expansion.trimZeros (e : Expansion) : Expansion :=
  { e with digits := (e.digits.reverse.dropWhile (· = '0')).reverse }

/-! ## The shortest expansion -/

/-- The decimals `units · 10 ^ place` that are read back as `significand · 2 ^ exponent`: those
within half a step to either side, where the step below a power of two is half as long, and the
ends belong to it exactly if the significand is even. -/
def readsBack (significand : Nat) (exponent : Int) (units : Nat) (place : Int) : Bool :=
  let atPower := decide (significand = Nat.pow 2 52 ∧ Binary64.minExponent < exponent)
  let low := 4 * significand - (if atPower then 1 else 2)
  let high := 4 * significand + 2
  let (n, d) := Binary64.scaleTwo 1 1 (exponent - 2)
  let (num, den) := scaleTen units 1 place
  if significand % 2 = 0 then decide (low * n * den ≤ num * d ∧ num * d ≤ high * n * den)
  else decide (low * n * den < num * d ∧ num * d < high * n * den)

/-- The decimal with its last digit at `place` that is nearest to `significand · 2 ^ exponent`
among those that are read back as it. Only the neighbours on either side can be. -/
def nearestAt? (significand : Nat) (exponent : Int) (place : Int) : Option Nat :=
  let (num, den) := Binary64.ratio significand exponent
  let (n, d) := scaleTen num den (-place)
  let below := n / d
  let above := below + 1
  let reads := fun units => readsBack significand exponent units place
  if reads below && reads above then some (roundDiv n d)
  else if reads below then some below
  else if reads above then some above
  else none

/-- The shortest expansion of a positive finite number that is read back as it, and of those
the nearest. Seventeen digits always suffice. -/
def shortest (significand : Nat) (exponent : Int) : Expansion :=
  let (num, den) := Binary64.ratio significand exponent
  let leading := floorLog10 num den
  let counts : List Nat := (List.range 17).map (· + 1)
  let found := counts.findSome? fun (count : Nat) =>
    let place := leading - count + 1
    (nearestAt? significand exponent place).map fun units => ofUnits units place
  (found.getD (significant num den 17)).trimZeros

end SymbolText.Decimal
