/-!
# 64-bit words

Symbol values are 64-bit patterns, declared as signed or as unsigned integers. A set of symbols
compares its values in one of the two readings, so a pattern declared in the other one is read
anew.

The model of `comparable_value`.

* `Fits`: the values that can be declared with a signedness.
* `reading`: the integer that a value's pattern is in a reading.
* `comparable?`: the same, only for values that are patterns in one of the two readings.

Results: `reading_fits`, `reading_emod` (a reading is in range and keeps the pattern),
`reading_of_fits` (a value in range is its own reading) and `reading_eq_iff` (two values have one
reading exactly if their patterns are the same).
-/

namespace SymbolText.Word64

/-- The number of patterns. -/
def modulus : Int := 18446744073709551616

/-- The least signed value. -/
def minSigned : Int := -9223372036854775808

/-- The greatest signed value. -/
def maxSigned : Int := 9223372036854775807

/-- The greatest unsigned value. -/
def maxUnsigned : Int := 18446744073709551615

/-- The values of a signedness (`Symbol.__post_init__`). -/
def Fits : Bool → Int → Prop
  | true, v => minSigned ≤ v ∧ v ≤ maxSigned
  | false, v => 0 ≤ v ∧ v ≤ maxUnsigned

instance : (signed : Bool) → (v : Int) → Decidable (Fits signed v)
  | true, v => inferInstanceAs (Decidable (minSigned ≤ v ∧ v ≤ maxSigned))
  | false, v => inferInstanceAs (Decidable (0 ≤ v ∧ v ≤ maxUnsigned))

/-- The integer congruent to `v` modulo `2 ^ 64` in the range of a signedness. -/
def reading (signed : Bool) (v : Int) : Int :=
  if signed ∧ maxSigned < v % modulus then v % modulus - modulus else v % modulus

/-- The reading of a value that is a 64-bit pattern (`comparable_value`). -/
def comparable? (signed : Bool) (v : Int) : Option Int :=
  if v < minSigned ∨ maxUnsigned < v then none else some (reading signed v)

/-! ## Readings -/

/-- A reading is a value of its signedness. -/
theorem reading_fits (signed : Bool) (v : Int) : Fits signed (reading signed v) := by
  unfold reading
  cases signed <;>
    simp only [Fits, minSigned, maxSigned, maxUnsigned, modulus, Bool.false_eq_true, false_and,
      true_and, if_false] <;> omega

/-- A reading has the pattern of the value. -/
theorem reading_emod (signed : Bool) (v : Int) : reading signed v % modulus = v % modulus := by
  unfold reading
  split <;> simp only [modulus] <;> omega

/-- A value of a signedness is read as itself. -/
theorem reading_of_fits {signed : Bool} {v : Int} (hfits : Fits signed v) :
    reading signed v = v := by
  unfold reading
  cases signed <;>
    simp only [Fits, minSigned, maxSigned, maxUnsigned, modulus, Bool.false_eq_true, false_and,
      true_and, if_false] at hfits ⊢ <;> omega

/-- Two values have one reading exactly if they have one pattern. -/
theorem reading_eq_iff (signed : Bool) (v w : Int) :
    reading signed v = reading signed w ↔ v % modulus = w % modulus := by
  constructor
  · intro h
    rw [← reading_emod signed v, h, reading_emod]
  · intro h
    unfold reading
    rw [h]

end SymbolText.Word64
