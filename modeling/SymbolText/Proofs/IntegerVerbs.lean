import SymbolText.Proofs.Digits
import SymbolText.Proofs.Rendering

/-!
# Integers are written exactly

Flags, width and precision of a directive surround the digits of an integer: a sign and the mark of
the base come before them, zeros fill them up on the left and blanks on either side. None of it
changes the number, so that it can be read back, whatever was asked for. What is no integer, truth
values among it, is described instead of being made one.

* `Spec.integerText`: the text of an integer, where numerals may have any length.
* `integerVerbs`: the letters of the verbs for integers, and `Base.ofVerb`, their bases.

Results:
* `padWith_eq`, `padNumber_eq`: what padding adds; `le_length_padWith`, `le_length_padNumber`: it
  fills the width.
* `readWritten?_integerText`: the number is read back from its text.
* `format_integer_exact`: what the verbs for integers make of a value.
-/

namespace SymbolText

open Numeral

/-! ## Padding -/

namespace Spec

/-- Padding puts blanks on either side. -/
theorem padWith_eq {α : Type} (spec : Spec) (blank : α) (units : List α) :
    ∃ before after, spec.padWith blank units =
      List.replicate before blank ++ units ++ List.replicate after blank := by
  rw [padWith]
  split
  · refine ⟨0, spec.width - units.length, ?_⟩
    rw [List.replicate_zero, List.nil_append]
  · refine ⟨spec.width - units.length, 0, ?_⟩
    rw [List.replicate_zero, List.append_nil]

theorem le_length_padWith {α : Type} (spec : Spec) (blank : α) (units : List α) :
    spec.width ≤ (spec.padWith blank units).length := by
  rw [padWith]
  split
  · rw [List.length_append, List.length_replicate]
    omega
  · rw [List.length_append, List.length_replicate]
    omega

/-- Padding a number puts blanks on either side, and zeros in front of the digits. -/
theorem padNumber_eq (spec : Spec) (sign base digits : List Char) :
    ∃ before zeros after, spec.padNumber sign base digits =
      List.replicate before ' ' ++ (sign ++ (base ++ (List.replicate zeros '0' ++ digits))) ++
        List.replicate after ' ' := by
  rw [padNumber]
  split
  · refine ⟨0, spec.width - (sign.length + base.length + digits.length), 0, ?_⟩
    simp only [List.replicate_zero, List.nil_append, List.append_nil, List.append_assoc]
  · obtain ⟨before, after, hpad⟩ := spec.padWith_eq ' ' (sign ++ base ++ digits)
    refine ⟨before, 0, after, ?_⟩
    rw [hpad, List.replicate_zero, List.nil_append, List.append_assoc sign]

theorem le_length_padNumber (spec : Spec) (sign base digits : List Char) :
    spec.width ≤ (spec.padNumber sign base digits).length := by
  rw [padNumber]
  split
  · simp only [List.length_append, List.length_replicate]
    omega
  · exact spec.le_length_padWith ' ' _

theorem isSign_sign (spec : Spec) (negative : Bool) : IsSign (spec.sign negative) negative := by
  rw [sign]
  cases negative with
  | true => exact .minus
  | false =>
    rw [if_neg Bool.false_ne_true]
    split
    · exact .plus
    · split
      · exact .blank
      · exact .absent

/-! ## Integers -/

/-- The digits of an integer without sign, filled with zeros to the precision, where numerals may
have any length. -/
def integerDigits (spec : Spec) (base : Base) (n : Int) : List Char :=
  let digits := Verb.inCase (decide (base = .hexadecimal true)) (magnitude base.radix n.natAbs)
  List.replicate (spec.precision.getD 0 - digits.length) '0' ++ digits

/-- The text of an integer in a base, where numerals may have any length. -/
def integerText (spec : Spec) (base : Base) (n : Int) : List Char :=
  spec.padNumber (spec.sign (decide (n < 0))) (if spec.alternate then base.mark else [])
    (spec.integerDigits base n)

/-- The digits denote the number, after any more zeros. -/
theorem readDigits?_integerDigits (spec : Spec) (base : Base) (n : Int) (zeros : Nat) :
    readDigits? base.radix (List.replicate zeros '0' ++ spec.integerDigits base n) =
      some n.natAbs := by
  have hbase : 1 < base.radix ∧ base.radix ≤ 16 := by
    cases base <;> simp [Base.radix]
  rw [integerDigits, ← List.append_assoc, List.replicate_append_replicate]
  exact readDigits?_magnitude hbase.1 hbase.2 _ _ _

/-- The number is read back from its text. -/
theorem readWritten?_integerText (spec : Spec) {base : Base} {verb : Char}
    (hradix : base.radix = radixOf verb) (hmark : base.mark = markOf verb) (n : Int) :
    readWritten? verb spec.alternate (spec.integerText base n) =
      some (decide (n < 0), n.natAbs) := by
  obtain ⟨before, zeros, after, hpad⟩ := spec.padNumber_eq (spec.sign (decide (n < 0)))
    (if spec.alternate then base.mark else []) (spec.integerDigits base n)
  have hread := spec.readDigits?_integerDigits base n zeros
  rw [hradix] at hread
  rw [integerText, hpad, hmark, readWritten?_eq verb spec.alternate (spec.isSign_sign _)
    (isDigit_of_readDigits? hread), hread, Option.map_some]

end Spec

/-- An integer is written unless its precision or its decimal numeral is too long. -/
theorem Verb.formatInteger?_eq {spec : Spec} {base : Base} {n : Int}
    (hprecision : spec.precision.getD 0 ≤ maxIntegerPrecision)
    (hshort : ¬ (base = .decimal ∧ isTooLong n = true)) :
    formatInteger? spec base n = some (spec.integerText base n) := by
  rw [formatInteger?, integerDigits?]
  simp only [if_neg (Nat.not_lt.2 hprecision), if_neg hshort]
  rfl

/-! ## Verbs for integers -/

/-- The letters of the verbs for integers. -/
def integerVerbs : List Char := ['d', 'i', 'u', 'o', 'x', 'X']

/-- The base of a verb for integers. -/
def Base.ofVerb (verb : Char) : Base :=
  if verb = 'o' then .octal
  else if verb = 'x' ∨ verb = 'X' then .hexadecimal (decide (verb = 'X'))
  else .decimal

theorem eq_of_radixOf {verb : Char} (hradix : radixOf verb = 16) : verb = 'x' ∨ verb = 'X' := by
  rw [radixOf] at hradix
  split at hradix
  · cases hradix
  · split at hradix
    · assumption
    · split at hradix <;> cases hradix

/-- The verbs for integers, with the number of digits of each and its mark. -/
theorem ofChar?_of_mem_integerVerbs : ∀ verb ∈ integerVerbs,
    Verb.ofChar? verb = some (.integer (.ofVerb verb)) ∧
      (Base.ofVerb verb).radix = radixOf verb ∧ (Base.ofVerb verb).mark = markOf verb := by
  intro verb hverb
  simp only [integerVerbs, List.mem_cons, List.not_mem_nil, or_false] at hverb
  rcases hverb with rfl | rfl | rfl | rfl | rfl | rfl <;> exact ⟨rfl, rfl, rfl⟩

namespace Directive

variable {d : Directive}

theorem write?_eq {spec : Spec} {verb : Verb} (hspec : Spec.ofDirective? d = some spec)
    (hverb : Verb.ofChar? d.verb = some verb) (v : Value) :
    d.write? v = verb.write? spec v := by
  rw [write?, hspec, hverb]
  rfl

/-- A directive writes an integer only if its width and precision keep to their limits. -/
theorem exists_spec_of_write? {base : Base} {n : Int} {text : Text}
    (hverb : Verb.ofChar? d.verb = some (.integer base)) (hwrite : d.write? (.int n) = some text) :
    ∃ spec, Spec.ofDirective? d = some spec ∧
      spec.precision.getD 0 ≤ Verb.maxIntegerPrecision := by
  cases hspec : Spec.ofDirective? d with
  | none =>
    rw [write?, hspec] at hwrite
    cases hwrite
  | some spec =>
    refine ⟨spec, rfl, Nat.not_lt.1 fun hlarge => ?_⟩
    have hnone : Verb.formatInteger? spec base n = none := by
      rw [Verb.formatInteger?, Verb.integerDigits?]
      simp only [if_pos hlarge]
      rfl
    rw [write?_eq hspec hverb] at hwrite
    simp [Verb.write?, Value.integer?, hnone] at hwrite

/-- A value that a directive cannot write is described. -/
theorem format_of_write?_none {v : Value} (hnone : d.write? v = none) (hshown : ¬ v.Overlong) :
    d.format v = .ok (d.inline v) := by
  have hwritable : Template.Writable (some d) v := .inr hshown
  rw [Template.format_of_writable hwritable, written, hnone, Option.getD_none]

/-- A description has the type and the plain text of the value. -/
theorem inline_eq {v : Value} {shown : Text} (hshow : v.show? = some shown) :
    d.inline v = Text.ofChars ['%', '!', d.verb, '('] ++
      (Text.ofString v.typeName ++ .char '=' :: shown) ++ Text.ofString ")" := by
  rw [inline, Template.described, hshow, Option.getD_some]

/-- A verb for integers writes nothing else; in base sixteen it writes octets too. -/
theorem write?_of_not_integer {base : Base} {v : Value}
    (hverb : Verb.ofChar? d.verb = some (.integer base)) (hnone : v.integer? = none)
    (hoctets : ∀ upper, base = .hexadecimal upper → Verb.octets? v = none) :
    d.write? v = none := by
  cases hspec : Spec.ofDirective? d with
  | none =>
    rw [write?, hspec]
    rfl
  | some spec =>
    rw [write?_eq hspec hverb]
    cases base with
    | decimal => simp only [Verb.write?, hnone]
    | octal => simp only [Verb.write?, hnone]
    | hexadecimal upper => simp only [Verb.write?, hnone, hoctets upper rfl]

/-- **The verbs for integers write the exact number.** A number is written only if width and
precision keep to their limits. If they do, the text of any number fills the width, and the number
is read back from it, however long it is. The text is what the directive makes of the number unless
it is a decimal numeral that is too long. A value that is no integer is described with its type;
only texts and octets are written, in base sixteen. -/
theorem format_integer_exact (hverb : d.verb ∈ integerVerbs) :
    (∀ n text, d.write? (.int n) = some text → ∃ spec, Spec.ofDirective? d = some spec ∧
      spec.precision.getD 0 ≤ Verb.maxIntegerPrecision) ∧
    (∀ spec, Spec.ofDirective? d = some spec →
      spec.precision.getD 0 ≤ Verb.maxIntegerPrecision →
      ∀ n : Int, spec.width ≤ (spec.integerText (.ofVerb d.verb) n).length ∧
        readWritten? d.verb spec.alternate (spec.integerText (.ofVerb d.verb) n) =
          some (decide (n < 0), n.natAbs) ∧
        (¬ (radixOf d.verb = 10 ∧ isTooLong n = true) →
          d.format (.int n) = .ok (Text.ofChars (spec.integerText (.ofVerb d.verb) n)))) ∧
    (∀ v : Value, v.integer? = none →
      (d.verb = 'x' ∨ d.verb = 'X' → v.text? = none ∧ ∀ octets, v ≠ .bytes octets) →
      ¬ v.Overlong →
      ∃ shown, v.show? = some shown ∧ d.format v = .ok (Text.ofChars ['%', '!', d.verb, '('] ++
        (Text.ofString v.typeName ++ .char '=' :: shown) ++ Text.ofString ")")) := by
  obtain ⟨hinteger, hradix, hmark⟩ := ofChar?_of_mem_integerVerbs d.verb hverb
  refine ⟨fun n text hwrite => exists_spec_of_write? hinteger hwrite, ?_, ?_⟩
  · intro spec hspec hprecision n
    refine ⟨spec.le_length_padNumber _ _ _, spec.readWritten?_integerText hradix hmark n, ?_⟩
    intro hshort
    have hshort' : ¬ (Base.ofVerb d.verb = .decimal ∧ isTooLong n = true) := by
      rintro ⟨hdecimal, hlong⟩
      rw [hdecimal] at hradix
      exact hshort ⟨hradix.symm, hlong⟩
    have hwrite := Verb.formatInteger?_eq hprecision hshort'
    rw [format, write?_eq hspec hinteger]
    simp only [Verb.write?, Value.integer?, hwrite, Option.map_some]
  · intro v hnone hother hshown
    have hoctets : ∀ upper, Base.ofVerb d.verb = .hexadecimal upper → Verb.octets? v = none := by
      intro upper hbase
      rw [hbase] at hradix
      obtain ⟨htext, hbytes⟩ := hother (eq_of_radixOf hradix.symm)
      cases v with
      | text s => cases htext
      | bytes octets => exact absurd rfl (hbytes octets)
      | _ => rfl
    obtain ⟨shown, hshow⟩ := Option.isSome_iff_exists.1 ((Value.isSome_show?_iff v).2 hshown)
    refine ⟨shown, hshow, ?_⟩
    rw [← inline_eq hshow]
    exact format_of_write?_none (write?_of_not_integer hinteger hnone hoctets) hshown

/-- Zeros stand behind the sign and the mark; a truth value is not written as one. -/
theorem format_integer_exact_filled :
    let d : Directive := ⟨['#', '0'], ['1', '0'], some ['3'], 'x'⟩
    d.verb ∈ integerVerbs ∧ d.format (.int (-255)) = .ok (Text.ofString "-0x00000ff") ∧
      readWritten? d.verb true "-0x00000ff".toList = some (true, 255) ∧
      d.format (.bool true) = .ok (Text.ofString "%!x(bool=True)") := by
  intro d
  have hverb : d.verb ∈ integerVerbs := by decide
  have hspec : Spec.ofDirective? d = some ⟨false, false, false, true, true, 10, some 3⟩ := by decide
  have htext : Spec.integerText ⟨false, false, false, true, true, 10, some 3⟩ (.ofVerb d.verb)
      (-255) = "-0x00000ff".toList := by decide
  obtain ⟨-, hinteger, hother⟩ := format_integer_exact hverb
  obtain ⟨-, hread, hformat⟩ := hinteger _ hspec (by decide) (-255)
  obtain ⟨shown, hshow, hdescribed⟩ :=
    hother (.bool true) rfl (fun _ => ⟨rfl, fun octets h => by cases h⟩) (by decide)
  rw [htext] at hread hformat
  refine ⟨hverb, hformat (by decide), hread, ?_⟩
  rw [hdescribed, ← Option.some.inj hshow]
  rfl

end Directive

end SymbolText
