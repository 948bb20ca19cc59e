import SymbolText.Number.Binary64

/-!
# Arithmetic on binary numbers

Sums and products of numbers of the 64-bit binary format: the exact result, rounded once. What has
no definite result is not-a-number.

* `Binary64.neg`, `mul`, `add`: the operations.
-/

namespace SymbolText.Binary64

/-- The number nearest to `± n · 2 ^ exponent`. -/
def ofScaled (negative : Bool) (n : Nat) (exponent : Int) : Binary64 :=
  let (num, den) := scaleTwo n 1 exponent
  ofRatio negative num den

/-- The number of the opposite sign. -/
def neg : Binary64 → Binary64
  | nan => nan
  | infinity negative => infinity !negative
  | finite negative significand exponent => finite (!negative) significand exponent

/-- The product of two numbers; that of an infinity and zero is not a number. -/
def mul : Binary64 → Binary64 → Binary64
  | finite s m e, finite s' m' e' => ofScaled (s != s') (m * m') (e + e')
  | infinity s, infinity s' => infinity (s != s')
  | infinity s, finite s' m _ => if m = 0 then nan else infinity (s != s')
  | finite s m _, infinity s' => if m = 0 then nan else infinity (s != s')
  | nan, _ | _, nan => nan

/-- A significand with its sign, in units of `2 ^ unit`, for a `unit` up to its exponent. -/
def inUnits (negative : Bool) (significand : Nat) (exponent unit : Int) : Int :=
  let n : Int := significand * Nat.pow 2 (exponent - unit).toNat
  if negative then -n else n

/-- The sum of two numbers; that of opposite infinities is not a number. A sum that is exactly
zero is negative only if both numbers are. -/
def add : Binary64 → Binary64 → Binary64
  | finite s m e, finite s' m' e' =>
    let unit := min e e'
    let sum := inUnits s m e unit + inUnits s' m' e' unit
    if sum = 0 then zero (s && s') else ofScaled (decide (sum < 0)) sum.natAbs unit
  | infinity s, infinity s' => if s = s' then infinity s else nan
  | infinity s, finite .. | finite .., infinity s => infinity s
  | nan, _ | _, nan => nan

end SymbolText.Binary64
