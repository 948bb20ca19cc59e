import SymbolText.Proofs.IntegerVerbs
import SymbolText.Proofs.Utf8

/-!
# Encodings are cut to the precision

An integer in base two, and a text or octets in base sixteen, are written as texts. For a text the
precision is the greatest number of characters, not the least number of digits, so that it cuts off
the end of an encoding that is longer. Flags and width only pad it. What was encoded can be read
back exactly if the precision leaves room for all of it.

* `Spec.cut`: a sequence cut to the precision, and `Spec.Admits`, the lengths that stay whole.
* `Directive.WritesOctets`: what a directive writes are the hexadecimal digits of octets, cut.

Results:
* `padChars_eq`, `trim_padWith`: a text is cut and padded, and trimming takes the padding away.
* `readWritten?_binaryText_iff`: when an integer in base two can be read back.
* `readOctets?_cut_iff`: when octets in base sixteen can be.
* `format_encoding`: what is written in base two, and in base sixteen for a text or octets.
-/

namespace SymbolText

open Numeral

/-! ## Cutting and padding -/

namespace Spec

variable {spec : Spec}

/-- A sequence cut to the precision, if there is one. -/
def cut {α : Type} (spec : Spec) (units : List α) : List α :=
  match spec.precision with
  | some k => units.take k
  | none => units

/-- The precision, if there is one, leaves room for some characters. -/
def Admits (spec : Spec) (length : Nat) : Prop := ∀ k ∈ spec.precision, length ≤ k

theorem cut_of_admits {α : Type} {units : List α} (hadmits : spec.Admits units.length) :
    spec.cut units = units := by
  rw [cut]
  split
  · rename_i k hprecision
    exact List.take_of_length_le (hadmits k hprecision)
  · rfl

/-- A sequence that there is no room for loses its end. -/
theorem exists_cut_eq_take {α : Type} {units : List α} (hrefused : ¬ spec.Admits units.length) :
    ∃ k < units.length, spec.cut units = units.take k := by
  simp only [Admits, not_forall, Nat.not_le] at hrefused
  obtain ⟨k, hprecision, hlt⟩ := hrefused
  refine ⟨k, hlt, ?_⟩
  rw [cut, Option.mem_def.1 hprecision]

theorem mem_of_mem_cut {α : Type} {units : List α} {a : α} (ha : a ∈ spec.cut units) :
    a ∈ units := by
  rw [cut] at ha
  split at ha
  · exact List.mem_of_mem_take ha
  · exact ha

theorem cut_map {α β : Type} (spec : Spec) (f : α → β) (units : List α) :
    spec.cut (units.map f) = (spec.cut units).map f := by
  rw [cut, cut]
  split
  · exact List.map_take.symm
  · rfl

theorem padWith_map {α β : Type} (spec : Spec) (f : α → β) (blank : α) (units : List α) :
    spec.padWith (f blank) (units.map f) = (spec.padWith blank units).map f := by
  rw [padWith, padWith, List.length_map]
  split
  · rw [List.map_append, List.map_replicate]
  · rw [List.map_append, List.map_replicate]

theorem padText_eq (spec : Spec) (text : Text) :
    spec.padText text = spec.padWith (.char ' ') (spec.cut text) :=
  rfl

/-- Characters are cut and padded as a text is. -/
theorem padChars_eq (spec : Spec) (chars : List Char) :
    spec.padChars chars = Text.ofChars (spec.padWith ' ' (spec.cut chars)) := by
  rw [padChars, padText_eq, Text.ofChars, cut_map, padWith_map]
  rfl

/-- Trimming takes the padding away. -/
theorem trim_padWith (spec : Spec) {chars : List Char}
    (hchars : ∀ c ∈ chars, isPadding c = false) :
    Text.trim isPadding (spec.padWith ' ' chars) = chars := by
  obtain ⟨before, after, hpad⟩ := spec.padWith_eq ' ' chars
  rw [hpad, Text.trim_append_of_all chars (fun c hc => isPadding_of_mem_blanks hc)
    (fun c hc => isPadding_of_mem_blanks hc), Text.trim_of_none hchars]

end Spec

/-! ## Integers in base two -/

namespace Verb

/-- The sign and the digits of an integer in base two. -/
theorem exists_binaryText_eq (n : Int) : ∃ sign, IsSign sign (decide (n < 0)) ∧
    (sign = ['-'] ∨ sign = []) ∧ binaryText n = sign ++ magnitude 2 n.natAbs := by
  by_cases hn : n < 0
  · refine ⟨['-'], ?_, .inl rfl, ?_⟩
    · rw [decide_eq_true hn]
      exact .minus
    · rw [binaryText, if_pos hn]
      rfl
  · refine ⟨[], ?_, .inr rfl, ?_⟩
    · rw [decide_eq_false hn]
      exact .absent
    · rw [binaryText, if_neg hn]
      rfl

theorem not_isPadding_of_mem_binaryText {n : Int} {c : Char} (hc : c ∈ binaryText n) :
    isPadding c = false := by
  obtain ⟨sign, -, hshort, htext⟩ := exists_binaryText_eq n
  rw [htext, List.mem_append] at hc
  rcases hc with hsign | hdigit
  · rcases hshort with rfl | rfl
    · rw [List.mem_singleton.1 hsign]
      rfl
    · cases hsign
  · have hbinary : isDigit 2 c = true :=
      isDigit_of_mem_magnitude (by decide) (by decide) false hdigit
    exact decide_eq_false (isPlain_of_isDigit hbinary).1

end Verb

namespace Spec

/-- Base two has no mark, so that a sign and digits are read. -/
theorem readWritten?_padWith (spec : Spec) {sign digits : List Char} {negative : Bool}
    (hsign : IsSign sign negative) (hdigits : ∀ c ∈ digits, isDigit 2 c = true) :
    readWritten? 'b' spec.alternate (spec.padWith ' ' (sign ++ digits)) =
      (readDigits? 2 digits).map (negative, ·) := by
  obtain ⟨before, after, hpad⟩ := spec.padWith_eq ' ' (sign ++ digits)
  have hread := readWritten?_eq 'b' spec.alternate hsign hdigits before after
  have hmark : (if spec.alternate then markOf 'b' else []) = [] := by
    cases spec.alternate <;> rfl
  rw [hmark, List.nil_append] at hread
  rw [hpad]
  exact hread

/-- A sign and fewer digits than a number has do not show the number. -/
theorem readWritten?_take_ne (spec : Spec) {sign : List Char} {negative : Bool} {n k : Nat}
    (hsign : IsSign sign negative) (hk : k < (magnitude 2 n).length) :
    readWritten? 'b' spec.alternate (spec.padWith ' ' (sign ++ (magnitude 2 n).take k)) ≠
      some (negative, n) := by
  have hdigits : ∀ c ∈ (magnitude 2 n).take k, isDigit 2 c = true := fun c hc =>
    isDigit_of_mem_magnitude (by decide) (by decide) false (List.mem_of_mem_take hc)
  intro hread
  rw [readWritten?_padWith spec hsign hdigits, Option.map_eq_some_iff] at hread
  obtain ⟨m, hm, heq⟩ := hread
  rw [(Prod.mk.inj heq).2] at hm
  exact readDigits?_take_ne (by decide) hk hm

/-- An integer in base two can be read back exactly if there is room for all of it. -/
theorem readWritten?_binaryText_iff (spec : Spec) (n : Int) :
    readWritten? 'b' spec.alternate (spec.padWith ' ' (spec.cut (Verb.binaryText n))) =
        some (decide (n < 0), n.natAbs) ↔
      spec.Admits (Verb.binaryText n).length := by
  obtain ⟨sign, hsign, hshort, htext⟩ := Verb.exists_binaryText_eq n
  constructor
  · intro hread
    by_contra hrefused
    obtain ⟨k, hk, hcut⟩ := exists_cut_eq_take hrefused
    rw [hcut, htext] at hread
    rw [htext] at hk
    rcases hshort with rfl | rfl
    · cases k with
      | zero =>
        -- not even the sign is left, and no digits cannot be read
        have hnone := readWritten?_padWith spec .absent (List.forall_mem_nil _)
        rw [List.append_nil] at hnone
        rw [List.take_zero, hnone] at hread
        cases hread
      | succ k =>
        exact readWritten?_take_ne spec hsign (Nat.lt_of_succ_lt_succ hk) hread
    · exact readWritten?_take_ne spec hsign hk hread
  · intro hadmits
    have hread : readDigits? 2 (magnitude 2 n.natAbs) = some n.natAbs :=
      readDigits?_magnitude (by decide) (by decide) false 0 n.natAbs
    rw [cut_of_admits hadmits, htext,
      readWritten?_padWith spec hsign (isDigit_of_readDigits? hread), hread, Option.map_some]

/-! ## Octets in base sixteen -/

/-- There are no blanks among hexadecimal digits that trimming could take away. -/
theorem trim_padWith_hexOfOctets (spec : Spec) (upper : Bool) (octets : List UInt8) :
    Text.trim isPadding
        (spec.padWith ' ' (spec.cut (Verb.inCase upper (Verb.hexOfOctets octets)))) =
      spec.cut (Verb.inCase upper (Verb.hexOfOctets octets)) := by
  refine spec.trim_padWith fun c hc => ?_
  have hplain := isPlain_of_isDigit (isDigit_of_mem_hexOfOctets (mem_of_mem_cut hc))
  exact decide_eq_false hplain.1

/-- Octets can be read back from their hexadecimal digits exactly if there is room for two of
each. -/
theorem readOctets?_cut_iff (spec : Spec) (upper : Bool) (octets : List UInt8) :
    readOctets? (spec.cut (Verb.inCase upper (Verb.hexOfOctets octets))) = some octets ↔
      spec.Admits (2 * octets.length) := by
  have hread := readOctets?_hexOfOctets upper octets
  have hlength := length_of_readOctets? hread
  rw [← hlength]
  constructor
  · intro hcut
    by_contra hrefused
    obtain ⟨k, hk, htake⟩ := exists_cut_eq_take hrefused
    have hless := length_of_readOctets? hcut
    rw [htake, List.length_take_of_le (Nat.le_of_lt hk)] at hless
    omega
  · intro hadmits
    rw [cut_of_admits hadmits, hread]

end Spec

/-! ## Verbs for encodings -/

namespace Directive

variable {d : Directive} {spec : Spec}

theorem ofChar?_of_hexadecimal {verb : Char} (hverb : verb = 'x' ∨ verb = 'X') :
    Verb.ofChar? verb = some (.integer (.hexadecimal (decide (verb = 'X')))) := by
  rcases hverb with rfl | rfl <;> decide

/-- A directive writes the hexadecimal digits of octets for a value: they are cut and padded, and
the octets can be read back exactly if there is room for all digits. -/
def WritesOctets (d : Directive) (spec : Spec) (v : Value) (octets : List UInt8) : Prop :=
  ∃ text, d.format v = .ok (Text.ofChars text) ∧ spec.width ≤ text.length ∧
    Text.trim isPadding text =
      spec.cut (Verb.inCase (decide (d.verb = 'X')) (Verb.hexOfOctets octets)) ∧
    (readOctets? (Text.trim isPadding text) = some octets ↔ spec.Admits (2 * octets.length))

/-- A text without surrogates and octets are written so. -/
theorem writesOctets (hspec : Spec.ofDirective? d = some spec) (hverb : d.verb = 'x' ∨ d.verb = 'X')
    {v : Value} {octets : List UInt8} (hoctets : Verb.octets? v = some octets) :
    d.WritesOctets spec v octets := by
  have hof := ofChar?_of_hexadecimal hverb
  have hnone : v.integer? = none := by
    cases v with
    | int n => cases hoctets
    | _ => rfl
  have htrim := spec.trim_padWith_hexOfOctets (decide (d.verb = 'X')) octets
  refine ⟨_, ?_, spec.le_length_padWith ' ' _, htrim, ?_⟩
  · rw [format, write?_eq hspec hof]
    simp only [Verb.write?, hnone, hoctets, Spec.padChars_eq]
  · rw [htrim, spec.readOctets?_cut_iff]

/-- A text with surrogates has no octets, so that it is described. -/
theorem format_of_surrogate (hverb : d.verb = 'x' ∨ d.verb = 'X') {s : Text}
    (hsurrogate : Text.chars? s = none) : d.format (.text s) = .ok (d.inline (.text s)) := by
  have hof := ofChar?_of_hexadecimal hverb
  have hnone : d.write? (.text s) = none := by
    refine write?_of_not_integer hof rfl fun _ _ => ?_
    rw [Verb.octets?, hsurrogate, Option.map_none]
  exact format_of_write?_none hnone (by simp [Value.Overlong, Value.integers])

/-- **An encoding can be read back if the precision leaves room.** In base two an integer, and in
base sixteen a text or octets, are cut to the precision and padded. What was given can be read back
exactly if nothing was cut off. -/
theorem format_encoding (hspec : Spec.ofDirective? d = some spec) :
    (d.verb = 'b' → ∀ n : Int, ∃ text, d.format (.int n) = .ok (Text.ofChars text) ∧
      spec.width ≤ text.length ∧
      Text.trim isPadding text = spec.cut (Verb.binaryText n) ∧
      (readWritten? 'b' spec.alternate text = some (decide (n < 0), n.natAbs) ↔
        spec.Admits (Verb.binaryText n).length)) ∧
    (d.verb = 'x' ∨ d.verb = 'X' →
      (∀ octets, d.WritesOctets spec (.bytes octets) octets) ∧
      (∀ chars, d.WritesOctets spec (.text (Text.ofChars chars)) (Text.Utf8.encode chars) ∧
        Text.Utf8.decode (Text.Utf8.encode chars) = .ok chars) ∧
      (∀ s, Text.chars? s = none → d.format (.text s) = .ok (d.inline (.text s)))) := by
  constructor
  · intro hverb n
    have hof : Verb.ofChar? d.verb = some .binary := by
      rw [hverb]
      decide
    refine ⟨_, ?_, spec.le_length_padWith ' ' _, ?_, spec.readWritten?_binaryText_iff n⟩
    · rw [format, write?_eq hspec hof]
      simp only [Verb.write?, Value.integer?, Option.map_some, Spec.padChars_eq]
    · exact spec.trim_padWith fun c hc =>
        Verb.not_isPadding_of_mem_binaryText (Spec.mem_of_mem_cut hc)
  · intro hverb
    refine ⟨fun octets => ?_, fun chars => ⟨?_, Text.Utf8.decode_encode chars⟩, fun s hs => ?_⟩
    · exact writesOctets hspec hverb rfl
    · refine writesOctets hspec hverb ?_
      rw [Verb.octets?, Text.chars?_ofChars, Option.map_some]
    · exact format_of_surrogate hverb hs

/-- A width does not change an integer, and a precision with room for it neither. -/
theorem format_encoding_padded :
    let d : Directive := ⟨['0'], ['8'], some ['4'], 'b'⟩
    Spec.ofDirective? d = some ⟨false, false, false, false, true, 8, some 4⟩ ∧
      d.format (.int (-5)) = .ok (Text.ofString "    -101") ∧
      readWritten? 'b' false "    -101".toList = some (true, 5) := by
  intro d
  have hspec : Spec.ofDirective? d = some ⟨false, false, false, false, true, 8, some 4⟩ := by decide
  obtain ⟨text, hformat, -, -, hread⟩ := (format_encoding hspec).1 rfl (-5)
  have htext : d.format (.int (-5)) = .ok (Text.ofString "    -101") := rfl
  have hadmits : Spec.Admits ⟨false, false, false, false, true, 8, some 4⟩
      (Verb.binaryText (-5)).length := by
    intro k hk
    cases hk
    decide
  rw [htext] at hformat
  obtain rfl := Text.ofChars_injective (Except.ok.inj hformat)
  exact ⟨hspec, htext, hread.2 hadmits⟩

/-- A precision of two leaves two of the three digits of five, which are those of another number,
and a precision of three leaves half an octet of a text. -/
theorem format_encoding_short :
    (⟨[], [], some ['2'], 'b'⟩ : Directive).format (.int 5) = .ok (Text.ofString "10") ∧
      readWritten? 'b' false "10".toList ≠ some (false, 5) ∧
      (⟨[], [], some ['3'], 'x'⟩ : Directive).format (.ofString "ab") = .ok (Text.ofString "616") ∧
      readOctets? "616".toList = none := by
  refine ⟨rfl, by decide, rfl, by decide⟩

end Directive

end SymbolText
