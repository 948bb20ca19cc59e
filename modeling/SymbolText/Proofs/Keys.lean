import Mathlib.Algebra.Group.Int.Defs
import SymbolText.Symbol.Key

/-!
# Values with a key are the declared ones

A set of symbols looks a value up by its key. Two values of one pattern have the same key, of
which one may be declared and the other not, so that the key domain has to tell them apart.

Results:
* `key?_of_declared`: a declared value has its reading as its key.
* `declared_of_key?`: a value that has the key of a symbol is declared.
* `reading_of_key?`: whatever has a key, the key is its reading.
* `key?_exact`: the keys of symbols are those of the declared values, which share one exactly if
  their patterns are the same, and all keys are in range and keep the pattern.
-/

namespace SymbolText

/-! ## Readings of declared values -/

theorem keyIn_of_fits (signed : Bool) {s : Symbol} (hfits : Word64.Fits signed s.value) :
    s.keyIn signed = s.value :=
  Word64.reading_of_fits hfits

/-- In a list without a signed symbol, all symbols are unsigned. -/
theorem fits_of_anySigned_eq_false {symbols : List Symbol} {s : Symbol}
    (hmode : SymbolSet.anySigned symbols = false) (hs : s ∈ symbols) :
    Word64.Fits false s.value := by
  have hfits := s.fits
  have hsigned : s.signed = false := by
    simpa using List.any_eq_false.1 hmode s hs
  rwa [hsigned] at hfits

/-- A value within the signed range belongs to a signed set as it is. -/
theorem fits_of_le_maxSigned {s : Symbol} (hle : s.value ≤ Word64.maxSigned) :
    Word64.Fits true s.value := by
  have hfits := s.fits
  cases hs : s.signed <;>
    simp only [hs, Word64.Fits, Word64.minSigned, Word64.maxSigned, Word64.maxUnsigned]
      at hfits hle ⊢ <;> omega

/-- The pattern decides about the key of a symbol. -/
theorem keyIn_eq_reading_iff (signed : Bool) (s : Symbol) (v : Int) :
    s.keyIn signed = Word64.reading signed v ↔ s.value % Word64.modulus = v % Word64.modulus :=
  Word64.reading_eq_iff signed s.value v

/-! ## Key domains -/

namespace KeyDomain

theorem lookup_keyed (key : Int → Int) (values : List Int) (v : Int) :
    (values.map fun w => (w, key w)).lookup v = if v ∈ values then some (key v) else none := by
  induction values with
  | nil => rfl
  | cons w rest ih =>
    rw [List.map_cons, List.lookup_cons, ih]
    by_cases hvw : v = w
    · simp [hvw]
    · rw [beq_false_of_ne hvw]
      simp only [List.mem_cons, hvw, false_or]

/-- The values beyond the signed range of a signed set have keys if they are declared. -/
theorem wrapped_lookup (symbols : List Symbol) {v : Int} (hv : Word64.maxSigned < v) :
    (ofSymbols symbols true).wrapped.lookup v =
      if v ∈ symbols.map (·.value) then some (Word64.reading true v) else none := by
  simp only [ofSymbols, if_true, lookup_keyed, List.mem_eraseDups, List.mem_filter,
    decide_eq_true_eq, hv, and_true]

/-- A key is shadowed if values beyond the signed range have it, and nothing within. -/
theorem mem_shadowed (symbols : List Symbol) (k : Int) :
    k ∈ (ofSymbols symbols true).shadowed ↔
      (∃ s ∈ symbols, Word64.maxSigned < s.value ∧ s.keyIn true = k) ∧
        ¬ (k ≤ Word64.maxSigned ∧ k ∈ symbols.map (·.value)) := by
  simp only [ofSymbols, if_true, List.map_map, List.mem_filter, List.mem_map,
    List.mem_eraseDups, decide_eq_true_eq, Function.comp_apply, Bool.not_eq_true',
    List.contains_eq_mem, decide_eq_false_iff_not, Symbol.keyIn]
  constructor
  · rintro ⟨⟨w, ⟨⟨s, hs, rfl⟩, hw⟩, hk⟩, hnot⟩
    exact ⟨⟨s, hs, hw, hk⟩, fun h => hnot ⟨h.2, h.1⟩⟩
  · rintro ⟨⟨s, hs, hw, hk⟩, hnot⟩
    exact ⟨⟨s.value, ⟨⟨s, hs, rfl⟩, hw⟩, hk⟩, fun h => hnot ⟨h.2, h.1⟩⟩

theorem signed_ofSymbols (symbols : List Symbol) (signed : Bool) :
    (ofSymbols symbols signed).signed = signed := by
  cases signed <;> rfl

variable {symbols : List Symbol} {v : Int}

/-- A declared value has a key, which is its reading. -/
theorem key?_of_declared {s : Symbol} (hs : s ∈ symbols) :
    (ofSymbols symbols (SymbolSet.anySigned symbols)).key? s.value =
      some (s.keyIn (SymbolSet.anySigned symbols)) := by
  cases hmode : SymbolSet.anySigned symbols with
  | false =>
    have hfits := fits_of_anySigned_eq_false hmode hs
    rw [keyIn_of_fits false hfits]
    simp only [key?, signed_ofSymbols, Bool.false_eq_true, if_false]
    exact if_pos hfits
  | true =>
    simp only [key?, signed_ofSymbols, if_true]
    by_cases hhigh : Word64.maxSigned < s.value
    · rw [if_pos hhigh, wrapped_lookup symbols hhigh, if_pos (List.mem_map_of_mem hs)]
      rfl
    · have hfits := fits_of_le_maxSigned (Int.not_lt.1 hhigh)
      have hshadow : s.value ∉ (ofSymbols symbols true).shadowed := by
        rw [mem_shadowed]
        exact fun h => h.2 ⟨hfits.2, List.mem_map_of_mem hs⟩
      have hlow : ¬ s.value < Word64.minSigned := Int.not_lt.2 hfits.1
      rw [if_neg hhigh, if_neg (by simp [hshadow, hlow]), keyIn_of_fits true hfits]

/-- A value that has the key of a symbol is declared. -/
theorem declared_of_key? {k : Int} {s : Symbol} (hs : s ∈ symbols)
    (hkey : (ofSymbols symbols (SymbolSet.anySigned symbols)).key? v = some k)
    (hk : s.keyIn (SymbolSet.anySigned symbols) = k) :
    v ∈ symbols.map (·.value) := by
  cases hmode : SymbolSet.anySigned symbols with
  | false =>
    rw [hmode] at hkey hk
    have hfits := fits_of_anySigned_eq_false hmode hs
    rw [keyIn_of_fits false hfits] at hk
    simp only [key?, signed_ofSymbols, Bool.false_eq_true, if_false] at hkey
    split at hkey
    · cases hkey
      exact List.mem_map.2 ⟨s, hs, hk⟩
    · cases hkey
  | true =>
    rw [hmode] at hkey hk
    simp only [key?, signed_ofSymbols, if_true] at hkey
    split at hkey
    · rename_i hhigh
      rw [wrapped_lookup symbols hhigh] at hkey
      split at hkey
      · assumption
      · cases hkey
    · split at hkey
      · cases hkey
      · rename_i hallowed
        cases hkey
        by_cases hhigh : Word64.maxSigned < s.value
        · -- `v` is the key of a value beyond the range, and not shadowed
          have hshadow : v ∉ (ofSymbols symbols true).shadowed := fun h => hallowed (.inr h)
          rw [mem_shadowed, not_and, Classical.not_not] at hshadow
          exact (hshadow ⟨s, hs, hhigh, hk⟩).2
        · rw [keyIn_of_fits true (fits_of_le_maxSigned (Int.not_lt.1 hhigh))] at hk
          exact List.mem_map.2 ⟨s, hs, hk⟩

/-- A key is the reading of its value. -/
theorem reading_of_key? {signed : Bool} {k : Int}
    (hkey : (ofSymbols symbols signed).key? v = some k) : Word64.reading signed v = k := by
  cases signed with
  | false =>
    simp only [key?, signed_ofSymbols, Bool.false_eq_true, if_false] at hkey
    split at hkey
    · rename_i hrange
      cases hkey
      exact Word64.reading_of_fits hrange
    · cases hkey
  | true =>
    simp only [key?, signed_ofSymbols, if_true] at hkey
    split at hkey
    · rename_i hhigh
      rw [wrapped_lookup symbols hhigh] at hkey
      split at hkey
      · exact Option.some.inj hkey
      · cases hkey
    · rename_i hhigh
      split at hkey
      · cases hkey
      · rename_i hallowed
        cases hkey
        have hlow : ¬ v < Word64.minSigned := fun h => hallowed (.inl h)
        exact Word64.reading_of_fits ⟨Int.not_lt.1 hlow, Int.not_lt.1 hhigh⟩

/-- **The keys of a set are those of its declared values.** A value has the key of a symbol exactly
if a symbol is declared with it, and the key is its value in the reading of the set. Declared values
share a key exactly if they are one pattern of 64 bits. Whatever value is given, declared or not,
its key is congruent to it and in the range of the reading. -/
theorem key?_exact (symbols : List Symbol) :
    let signed := SymbolSet.anySigned symbols
    let domain := ofSymbols symbols signed
    (∀ v, (∃ k, domain.key? v = some k ∧
        ∃ s ∈ symbols, Word64.comparable? signed s.value = some k) ↔ ∃ s ∈ symbols, s.value = v) ∧
    (∀ s ∈ symbols, ∃ k, domain.key? s.value = some k ∧
        Word64.comparable? signed s.value = some k) ∧
    (∀ s ∈ symbols, ∀ t ∈ symbols,
      domain.key? s.value = domain.key? t.value ↔ s.value % 2 ^ 64 = t.value % 2 ^ 64) ∧
    (∀ v k, domain.key? v = some k → k % 2 ^ 64 = v % 2 ^ 64 ∧ Word64.Fits signed k) := by
  intro signed domain
  have hdeclared : ∀ s ∈ symbols, domain.key? s.value = some (s.keyIn signed) :=
    fun s hs => key?_of_declared hs
  refine ⟨fun v => ⟨?_, ?_⟩, fun s hs => ⟨_, hdeclared s hs, comparable?_value signed s⟩, ?_, ?_⟩
  · rintro ⟨k, hkey, s, hs, hk⟩
    rw [comparable?_value, Option.some.injEq] at hk
    exact List.mem_map.1 (declared_of_key? hs hkey hk)
  · rintro ⟨s, hs, rfl⟩
    exact ⟨_, hdeclared s hs, s, hs, comparable?_value signed s⟩
  · intro s hs t ht
    rw [hdeclared s hs, hdeclared t ht, Option.some.injEq]
    exact keyIn_eq_reading_iff signed s t.value
  · intro v k hkey
    obtain rfl := reading_of_key? hkey
    exact ⟨Word64.reading_emod signed v, Word64.reading_fits signed v⟩

/-- A signed set with an unsigned value beyond the signed ones, and without the signed one of its
pattern. -/
def shadowing : List Symbol :=
  [⟨"T", "Least", -9223372036854775808, true, "Least", "-9223372036854775808", by decide⟩,
    ⟨"T", "High", 18446744073709551614, false, "High", "18446744073709551614", by decide⟩]

/-- The unsigned value has a key, and −2, which is the key, has none. -/
theorem key?_exact_shadowing :
    let domain := ofSymbols shadowing (SymbolSet.anySigned shadowing)
    (∃ s ∈ shadowing, s.value = 18446744073709551614) ∧
      domain.key? 18446744073709551614 = some (-2) ∧ domain.key? (-2) = none ∧
      ¬ (∃ k, domain.key? (-2) = some k ∧
        ∃ s ∈ shadowing, Word64.comparable? (SymbolSet.anySigned shadowing) s.value = some k) := by
  obtain ⟨hiff, -, -, -⟩ := key?_exact shadowing
  refine ⟨by decide, by decide, by decide, fun h => ?_⟩
  exact absurd ((hiff (-2)).1 h) (by decide)

end KeyDomain

end SymbolText
