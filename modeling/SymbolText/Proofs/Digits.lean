import Mathlib.Algebra.Group.Nat.Defs
import SymbolText.Proofs.Lines
import SymbolText.Template.Format

/-!
# Reading back what is written in digits

A number is written in digits, with a sign and the mark of its base in front and blanks around it.
The readers here know nothing of how wide a number was asked for: they take blanks, sign and mark
away, and what is left must be digits of the base.

* `Numeral.readDigits?`: the number that digits of a base denote.
* `Numeral.readWritten?`: the sign and the number that a written number shows.
* `Numeral.readOctets?`: the octets that pairs of hexadecimal digits denote.

Results:
* `readDigits?_magnitude`: the digits of a number denote it, in either case and after any zeros.
* `readDigits?_take_ne`: fewer of its digits do not.
* `readWritten?_eq`: a sign, a mark and digits are read with any blanks around them.
* `readOctets?_hexOfOctets`: the hexadecimal digits of octets denote them.
-/

namespace SymbolText.Numeral

open Verb (inCase hexOfOctets)

variable {base : Nat}

/-! ## Digits -/

/-- Whether a character is a digit of a base. -/
def isDigit (base : Nat) (c : Char) : Bool := (digit? c).any (Nat.blt · base)

/-- The number that digits of a base denote. There must be one at least. -/
def readDigits? (base : Nat) (text : List Char) : Option Nat :=
  if text ≠ [] ∧ text.all (isDigit base) then some (ofDigits base 0 text) else none

/-- A character in upper case if `upper` is set. -/
def caseOf (upper : Bool) (c : Char) : Char := if upper then c.toUpper else c

theorem inCase_eq_map (upper : Bool) (text : List Char) :
    inCase upper text = text.map (caseOf upper) := by
  cases upper
  · exact (List.map_id text).symm
  · rfl

/-- A digit has its value in either case. -/
theorem digit?_caseOf {d : Nat} (hd : d < 16) (upper : Bool) :
    digit? (caseOf upper d.digitChar) = some d := by
  revert d upper
  decide

theorem digitValue_of_digit? {c : Char} {d : Nat} (hc : digit? c = some d) :
    ofDigits.digitValue c = d := by
  rw [digit?] at hc
  split at hc
  · exact Option.some.inj hc
  · cases hc

theorem isDigit_caseOf {d : Nat} (hbase : base ≤ 16) (hd : d < base) (upper : Bool) :
    isDigit base (caseOf upper d.digitChar) = true := by
  have hdigit := digit?_caseOf (Nat.lt_of_lt_of_le hd hbase) upper
  simp [isDigit, hdigit, Nat.blt_eq, hd]

theorem ofDigits_append (base acc : Nat) (left right : List Char) :
    ofDigits base acc (left ++ right) = ofDigits base (ofDigits base acc left) right := by
  induction left generalizing acc with
  | nil => rfl
  | cons c left ih => exact ih _

/-- The digits of a number are its quotient's and its remainder. -/
theorem magnitude_eq (hbase : 1 < base) (n : Nat) :
    magnitude base n =
      if n < base then [n.digitChar] else magnitude base (n / base) ++ [(n % base).digitChar] := by
  exact Nat.toDigits_eq_if hbase

/-- The characters of a number are digits below its base. -/
theorem exists_of_mem_magnitude (hbase : 1 < base) {n : Nat} {c : Char}
    (hc : c ∈ magnitude base n) : ∃ d < base, c = d.digitChar := by
  induction n using Nat.strongRecOn with
  | ind n ih =>
    rw [magnitude_eq hbase] at hc
    split at hc
    · rename_i hsmall
      exact ⟨n, hsmall, List.mem_singleton.1 hc⟩
    · rename_i hlarge
      have hless : n / base < n := Nat.div_lt_self (by omega) hbase
      rcases List.mem_append.1 hc with hfront | hlast
      · exact ih _ hless hfront
      · exact ⟨n % base, Nat.mod_lt n (by omega), List.mem_singleton.1 hlast⟩

theorem isDigit_of_mem_magnitude (hbase : 1 < base) (hbase' : base ≤ 16) (upper : Bool) {n : Nat}
    {c : Char} (hc : c ∈ inCase upper (magnitude base n)) : isDigit base c = true := by
  rw [inCase_eq_map] at hc
  obtain ⟨digit, hdigit, rfl⟩ := List.mem_map.1 hc
  obtain ⟨d, hd, rfl⟩ := exists_of_mem_magnitude hbase hdigit
  exact isDigit_caseOf hbase' hd upper

/-- The digits of a number denote it. -/
theorem ofDigits_magnitude (hbase : 1 < base) (hbase' : base ≤ 16) (upper : Bool) (n : Nat) :
    ofDigits base 0 (inCase upper (magnitude base n)) = n := by
  have hlast : ∀ acc d, d < base →
      ofDigits base acc [caseOf upper d.digitChar] = acc * base + d := by
    intro acc d hd
    have hdigit := digit?_caseOf (Nat.lt_of_lt_of_le hd hbase') upper
    rw [ofDigits, ofDigits, digitValue_of_digit? hdigit]
  rw [inCase_eq_map]
  induction n using Nat.strongRecOn with
  | ind n ih =>
    rw [magnitude_eq hbase]
    split
    · rename_i hsmall
      rw [List.map_singleton, hlast 0 n hsmall, Nat.zero_mul, Nat.zero_add]
    · rename_i hlarge
      have hless : n / base < n := Nat.div_lt_self (by omega) hbase
      rw [List.map_append, List.map_singleton, ofDigits_append, ih _ hless,
        hlast _ _ (Nat.mod_lt n (by omega)), Nat.div_add_mod']

theorem ofDigits_zeros (base k : Nat) : ofDigits base 0 (List.replicate k '0') = 0 := by
  induction k with
  | zero => rfl
  | succ k ih =>
    have hzero : ofDigits.digitValue '0' = 0 := by decide
    rw [List.replicate_succ, ofDigits, hzero, Nat.zero_mul]
    exact ih

/-- The digits of a number denote it, in either case and after any zeros. -/
theorem readDigits?_magnitude (hbase : 1 < base) (hbase' : base ≤ 16) (upper : Bool)
    (zeros n : Nat) :
    readDigits? base (List.replicate zeros '0' ++ inCase upper (magnitude base n)) = some n := by
  have hne : inCase upper (magnitude base n) ≠ [] := by
    rw [inCase_eq_map, Ne, List.map_eq_nil_iff]
    exact Nat.toDigits_ne_nil
  have hzero : isDigit base '0' = true := isDigit_caseOf hbase' (Nat.lt_of_succ_lt hbase) false
  have hall : (List.replicate zeros '0' ++ inCase upper (magnitude base n)).all (isDigit base) := by
    rw [List.all_append, Bool.and_eq_true, List.all_eq_true, List.all_eq_true]
    refine ⟨fun c hc => ?_, fun c hc => isDigit_of_mem_magnitude hbase hbase' upper hc⟩
    rwa [List.eq_of_mem_replicate hc]
  rw [readDigits?, if_pos ⟨List.append_ne_nil_of_right_ne_nil _ hne, hall⟩, ofDigits_append,
    ofDigits_zeros, ofDigits_magnitude hbase hbase']

/-- What a number of digits denotes is below that power of the base. -/
theorem ofDigits_lt {text : List Char} (htext : ∀ c ∈ text, isDigit base c = true) (acc : Nat) :
    ofDigits base acc text < (acc + 1) * base ^ text.length := by
  induction text generalizing acc with
  | nil =>
    rw [ofDigits, List.length_nil, Nat.pow_zero, Nat.mul_one]
    exact Nat.lt_succ_self acc
  | cons c rest ih =>
    obtain ⟨hc, hrest⟩ := List.forall_mem_cons.1 htext
    obtain ⟨d, hd, hlt⟩ : ∃ d, digit? c = some d ∧ d < base := by
      simpa [isDigit, Option.any_eq_true, Nat.blt_eq] using hc
    have hstep : acc * base + d + 1 ≤ (acc + 1) * base := by
      rw [Nat.succ_mul]
      omega
    rw [ofDigits, digitValue_of_digit? hd, List.length_cons, Nat.pow_succ', ← Nat.mul_assoc]
    calc ofDigits base (acc * base + d) rest
        < (acc * base + d + 1) * base ^ rest.length := ih hrest _
      _ ≤ (acc + 1) * base * base ^ rest.length := Nat.mul_le_mul_right _ hstep

/-- Fewer digits than a number has do not denote it. -/
theorem readDigits?_take_ne (hbase : 1 < base) {n k : Nat} (hk : k < (magnitude base n).length) :
    readDigits? base ((magnitude base n).take k) ≠ some n := by
  intro hread
  rw [readDigits?] at hread
  split at hread
  · rename_i htake
    obtain ⟨hne, hall⟩ := htake
    have hpos : 0 < k := by
      refine Nat.pos_of_ne_zero fun hzero => hne ?_
      rw [hzero, List.take_zero]
    have hlt := ofDigits_lt (List.all_eq_true.1 hall) 0
    rw [Option.some.inj hread, List.length_take_of_le (Nat.le_of_lt hk), Nat.zero_add,
      Nat.one_mul] at hlt
    have hshort : (magnitude base n).length ≤ k :=
      (Nat.length_toDigits_le_iff hbase hpos).2 hlt
    omega
  · cases hread

/-! ## Signs, marks and blanks -/

/-- The base that the letter of a verb for integers asks for. -/
def radixOf (verb : Char) : Nat :=
  if verb = 'o' then 8
  else if verb = 'x' ∨ verb = 'X' then 16
  else if verb = 'b' then 2
  else 10

/-- The mark of the base: a zero and the letter of the verb. Numbers in base ten and two have
none. -/
def markOf (verb : Char) : List Char :=
  if verb = 'o' ∨ verb = 'x' ∨ verb = 'X' then ['0', verb] else []

/-- Whether a character is a blank that pads a text. -/
def isPadding (c : Char) : Bool := c = ' '

theorem isPadding_of_mem_blanks {k : Nat} {c : Char} (hc : c ∈ List.replicate k ' ') :
    isPadding c = true := by
  rw [List.eq_of_mem_replicate hc]
  rfl

/-- Whether a number is negative and its magnitude, as they are read from what a verb wrote: blanks
around it do not count, and the sign, the mark of the base (if it was `marked`) and digits of the
base follow each other. -/
def readWritten? (verb : Char) (marked : Bool) (text : List Char) : Option (Bool × Nat) := do
  let (negative, body) := splitSign (Text.trim isPadding text)
  let digits ← (if marked then markOf verb else []).isPrefixOf? body
  let n ← readDigits? (radixOf verb) digits
  some (negative, n)

/-- The signs of numbers that are negative or not. -/
inductive IsSign : List Char → Bool → Prop
  | minus : IsSign ['-'] true
  | plus : IsSign ['+'] false
  | blank : IsSign [' '] false
  | absent : IsSign [] false

/-- A character that is neither a blank nor a sign. -/
def IsPlain (c : Char) : Prop := c ≠ ' ' ∧ c ≠ '-' ∧ c ≠ '+'

instance (c : Char) : Decidable (IsPlain c) :=
  inferInstanceAs (Decidable (c ≠ ' ' ∧ c ≠ '-' ∧ c ≠ '+'))

theorem isPlain_of_isDigit {c : Char} (hc : isDigit base c = true) : IsPlain c := by
  refine ⟨?_, ?_, ?_⟩ <;> rintro rfl <;> simp [isDigit, digit?, Char.isAlphanum] at hc

theorem isPlain_of_mem_markOf {verb c : Char} (hc : c ∈ markOf verb) : IsPlain c := by
  rw [markOf] at hc
  split at hc
  · rename_i hverb
    rcases List.mem_pair.1 hc with rfl | rfl
    · decide
    · rcases hverb with rfl | rfl | rfl <;> decide
  · cases hc

theorem trim_of_isPlain {text : List Char} (htext : ∀ c ∈ text, IsPlain c) :
    Text.trim isPadding text = text :=
  Text.trim_of_none fun c hc => decide_eq_false (htext c hc).1

theorem splitSign_of_isPlain {text : List Char} (htext : ∀ c ∈ text, IsPlain c) :
    splitSign text = (false, text) := by
  rw [splitSign.eq_def]
  split
  · exact absurd rfl (htext '-' List.mem_cons_self).2.1
  · exact absurd rfl (htext '+' List.mem_cons_self).2.2
  · rfl

/-- The sign of a number is found between blanks. -/
theorem splitSign_trim {sign body : List Char} {negative : Bool} (hsign : IsSign sign negative)
    (hbody : ∀ c ∈ body, IsPlain c) (before after : Nat) :
    splitSign (Text.trim isPadding
      (List.replicate before ' ' ++ (sign ++ body) ++ List.replicate after ' ')) =
        (negative, body) := by
  have hblank : ∀ k, ∀ c ∈ List.replicate k ' ', isPadding c = true :=
    fun k c hc => isPadding_of_mem_blanks hc
  rw [Text.trim_append_of_all _ (hblank before) (hblank after)]
  have hshown : ∀ c, isPadding c = false →
      Text.trim isPadding ([c] ++ body) = [c] ++ body := by
    intro c hc
    refine Text.trim_of_none fun c' hc' => ?_
    rcases List.mem_append.1 hc' with hfirst | hlater
    · rwa [List.mem_singleton.1 hfirst]
    · exact decide_eq_false (hbody c' hlater).1
  cases hsign with
  | minus =>
    rw [hshown '-' rfl]
    rfl
  | plus =>
    rw [hshown '+' rfl]
    rfl
  | blank =>
    -- a blank in the place of a sign is one more blank around the number
    have htrim := Text.trim_append_of_all body (hblank 1) (hblank 0)
    rw [List.replicate_one, List.replicate_zero, List.append_nil] at htrim
    rw [htrim, trim_of_isPlain hbody, splitSign_of_isPlain hbody]
  | absent => rw [List.nil_append, trim_of_isPlain hbody, splitSign_of_isPlain hbody]

theorem isDigit_of_readDigits? {text : List Char} {n : Nat}
    (hread : readDigits? base text = some n) : ∀ c ∈ text, isDigit base c = true := by
  rw [readDigits?] at hread
  split at hread
  · rename_i htext
    exact List.all_eq_true.1 htext.2
  · cases hread

/-- A sign, a mark and digits are read with any blanks around them. -/
theorem readWritten?_eq {sign digits : List Char} {negative : Bool} (verb : Char) (marked : Bool)
    (hsign : IsSign sign negative) (hdigits : ∀ c ∈ digits, isDigit (radixOf verb) c = true)
    (before after : Nat) :
    readWritten? verb marked (List.replicate before ' ' ++
      (sign ++ ((if marked then markOf verb else []) ++ digits)) ++ List.replicate after ' ') =
        (readDigits? (radixOf verb) digits).map (negative, ·) := by
  have hbody : ∀ c ∈ (if marked then markOf verb else []) ++ digits, IsPlain c := by
    intro c hc
    rcases List.mem_append.1 hc with hmark | hdigit
    · cases marked with
      | true => exact isPlain_of_mem_markOf hmark
      | false => cases hmark
    · exact isPlain_of_isDigit (hdigits c hdigit)
  have hmark := List.isPrefixOf?_eq_some_iff_append_eq.2
    (Eq.refl ((if marked then markOf verb else []) ++ digits))
  rw [readWritten?, splitSign_trim hsign hbody]
  simp only [hmark, Option.bind_eq_bind, Option.bind_some]
  cases readDigits? (radixOf verb) digits <;> rfl

/-! ## Octets -/

/-- The octets that pairs of hexadecimal digits denote. -/
def readOctets? : List Char → Option (List UInt8)
  | [] => some []
  | [_] => none
  | high :: low :: rest => do
    let n ← readDigits? 16 [high, low]
    let octets ← readOctets? rest
    some (UInt8.ofNat n :: octets)

theorem readDigits?_pair {high low : Nat} (hhigh : high < 16) (hlow : low < 16) (upper : Bool) :
    readDigits? 16 [caseOf upper high.digitChar, caseOf upper low.digitChar] =
      some (high * 16 + low) := by
  have hdigits : [caseOf upper high.digitChar, caseOf upper low.digitChar].all (isDigit 16) := by
    simp [isDigit_caseOf, hhigh, hlow]
  rw [readDigits?, if_pos ⟨List.cons_ne_nil _ _, hdigits⟩, ofDigits, ofDigits, ofDigits,
    digitValue_of_digit? (digit?_caseOf hhigh upper),
    digitValue_of_digit? (digit?_caseOf hlow upper), Nat.zero_mul, Nat.zero_add]

theorem inCase_hexOfOctets_cons (upper : Bool) (octet : UInt8) (octets : List UInt8) :
    inCase upper (hexOfOctets (octet :: octets)) =
      caseOf upper (octet.toNat / 16).digitChar :: caseOf upper (octet.toNat % 16).digitChar ::
        inCase upper (hexOfOctets octets) := by
  simp only [inCase_eq_map, hexOfOctets, List.flatMap_cons, Text.Utf8.hexOctet, List.map_cons,
    List.cons_append, List.nil_append]

/-- The hexadecimal digits of octets denote them. -/
theorem readOctets?_hexOfOctets (upper : Bool) (octets : List UInt8) :
    readOctets? (inCase upper (hexOfOctets octets)) = some octets := by
  induction octets with
  | nil => cases upper <;> rfl
  | cons octet octets ih =>
    have hoctet : octet.toNat < 256 := octet.toNat_lt
    have hhigh : octet.toNat / 16 < 16 := by omega
    have hlow : octet.toNat % 16 < 16 := by omega
    have hpair := readDigits?_pair hhigh hlow upper
    rw [Nat.div_add_mod'] at hpair
    rw [inCase_hexOfOctets_cons, readOctets?, hpair, ih]
    simp

theorem isDigit_of_mem_hexOfOctets {upper : Bool} {octets : List UInt8} {c : Char}
    (hc : c ∈ inCase upper (hexOfOctets octets)) : isDigit 16 c = true := by
  induction octets with
  | nil => cases upper <;> cases hc
  | cons octet octets ih =>
    have hoctet : octet.toNat < 256 := octet.toNat_lt
    rw [inCase_hexOfOctets_cons, List.mem_cons, List.mem_cons] at hc
    rcases hc with rfl | rfl | hlater
    · exact isDigit_caseOf (Nat.le_refl 16) (by omega) upper
    · exact isDigit_caseOf (Nat.le_refl 16) (by omega) upper
    · exact ih hlater

/-- Two digits are read for each octet. -/
theorem length_of_readOctets? {text : List Char} {octets : List UInt8}
    (hread : readOctets? text = some octets) : text.length = 2 * octets.length := by
  induction text using readOctets?.induct generalizing octets with
  | case1 =>
    cases hread
    rfl
  | case2 => cases hread
  | case3 high low rest ih =>
    rw [readOctets?] at hread
    obtain ⟨n, -, hread⟩ := Option.bind_eq_some_iff.1 hread
    obtain ⟨later, hlater, hread⟩ := Option.bind_eq_some_iff.1 hread
    cases hread
    rw [List.length_cons, List.length_cons, List.length_cons, ih hlater]
    omega

end SymbolText.Numeral
