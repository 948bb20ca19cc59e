import SymbolText.Symbol.Set

/-!
# Comparison keys

A set of symbols compares its values in one reading of their 64-bit patterns. A value that is
looked up has a key only if some symbol may have been declared with exactly this value: a
negative value is none of an unsigned set, and a value beyond the signed range is one of a
signed set only where an unsigned symbol declares it.

The model of `KeyDomain`.

* `Symbol.keyIn`: the key of a symbol in a reading.
* `KeyDomain`: the values with a key.
* `KeyDomain.ofSymbols`, `KeyDomain.bare`: the domain of given symbols, and the one that knows
  of no symbols.
* `KeyDomain.key?`: the key of a value.

Result: `comparable?_value` (the value of a symbol is a pattern in either reading).
-/

namespace SymbolText

/-- The value of a symbol as a set of the given signedness reads it. -/
def Symbol.keyIn (signed : Bool) (s : Symbol) : Int := Word64.reading signed s.value

/-- The value of a symbol is a pattern in either reading. -/
theorem comparable?_value (mode : Bool) (s : Symbol) :
    Word64.comparable? mode s.value = some (s.keyIn mode) := by
  have hfits := s.fits
  have hrange : ¬ (s.value < Word64.minSigned ∨ Word64.maxUnsigned < s.value) := by
    cases hs : s.signed <;>
      simp only [hs, Word64.Fits, Word64.minSigned, Word64.maxSigned, Word64.maxUnsigned]
        at hfits ⊢ <;> omega
  rw [Word64.comparable?, if_neg hrange, Symbol.keyIn]

/-- The values that a set of symbols can be asked for (`KeyDomain`). -/
structure KeyDomain where
  /-- Whether the set compares its values as signed integers. -/
  signed : Bool
  /-- The declared values beyond the signed range of a signed set, with their keys. -/
  wrapped : List (Int × Int)
  /-- The keys that only such a value has. -/
  shadowed : List Int
  deriving DecidableEq, Repr

namespace KeyDomain

/-- The domain of a signedness, without regard to any symbols. -/
def bare (signed : Bool) : KeyDomain := ⟨signed, [], []⟩

/-- The domain of symbols that are compared with a signedness (`KeyDomain.from_symbols`). -/
def ofSymbols (symbols : List Symbol) (signed : Bool) : KeyDomain :=
  if signed then
    let values := symbols.map (·.value)
    let high := (values.filter (Word64.maxSigned < ·)).eraseDups
    let native := values.filter (· ≤ Word64.maxSigned)
    let wrapped := high.map fun v => (v, Word64.reading true v)
    ⟨true, wrapped, (wrapped.map (·.2)).filter fun k => !native.contains k⟩
  else bare false

/-- The key of a value, if a symbol may have been declared with it (`KeyDomain.key`). -/
def key? (domain : KeyDomain) (v : Int) : Option Int :=
  if domain.signed then
    if Word64.maxSigned < v then domain.wrapped.lookup v
    else if v < Word64.minSigned ∨ v ∈ domain.shadowed then none
    else some v
  else if 0 ≤ v ∧ v ≤ Word64.maxUnsigned then some v
  else none

end KeyDomain

end SymbolText
