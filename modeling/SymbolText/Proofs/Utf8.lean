import SymbolText.Text.Utf8

/-!
# Decoding gives back encoded texts

The octets of a character are announced by their lead octet, whose value and those of the
continuations make up the number of the character. So decoding reads one character after the
other.

Results:
* `readChar_encodeChar`: the octets of a character are read as the number of the character.
* `decode_encode`: decoding the octets of a text gives the text.
* `zero_notMem_encode`: a text without the zero character has no zero octet.
-/

namespace SymbolText.Text.Utf8

/-! ## Octets -/

theorem toNat_ofNat_of_lt {n : Nat} (hn : n < 256) : (UInt8.ofNat n).toNat = n := by
  rw [UInt8.toNat_ofNat']
  exact Nat.mod_eq_of_lt hn

theorem toNat_continuation (n : Nat) : (continuation n).toNat = 0x80 + n % 64 :=
  toNat_ofNat_of_lt (by omega)

theorem ofNat_ne_zero {n : Nat} (hpos : 0 < n) (hn : n < 256) : (0 : UInt8) ≠ UInt8.ofNat n := by
  intro h
  have hn' := toNat_ofNat_of_lt hn
  rw [← h, UInt8.toNat_zero] at hn'
  omega

theorem continuation_ne_zero (n : Nat) : (0 : UInt8) ≠ continuation n :=
  ofNat_ne_zero (by omega) (by omega)

theorem isContinuation_continuation (n : Nat) : isContinuation (continuation n) = true := by
  simp only [isContinuation, toNat_continuation, Bool.and_eq_true, Nat.ble_eq, Nat.blt_eq]
  omega

/-- A continuation adds its six bits to the value read so far. -/
theorem readContinuations_continuation (code more seen n : Nat) (rest : List UInt8) :
    readContinuations code (more + 1) seen (continuation n :: rest) =
      readContinuations (code * 64 + n % 64) more (seen + 1) rest := by
  rw [readContinuations, if_pos (isContinuation_continuation n), toNat_continuation,
    Nat.add_sub_cancel_left]

/-- The octet after a lead octet that announces more, unless the two allow a shorter form, a
surrogate or a number beyond all characters. -/
theorem readChar_lead {lead more code n : Nat} (rest : List UInt8) (hlead : lead < 256)
    (hannounced : announced? (UInt8.ofNat lead) = some (more + 1, code))
    (hshort : lead = 0xe0 → 0x20 ≤ n % 64) (hsurrogate : lead = 0xed → n % 64 < 0x20)
    (hshort' : lead = 0xf0 → 0x10 ≤ n % 64) (hbeyond : lead = 0xf4 → n % 64 < 0x10) :
    readChar (UInt8.ofNat lead) (continuation n :: rest) =
      readContinuations (code * 64 + n % 64) more 2 rest := by
  have hsecond : isSecond (UInt8.ofNat lead) (continuation n) = true := by
    simp only [isSecond, isContinuation_continuation, Bool.true_and, toNat_continuation,
      toNat_ofNat_of_lt hlead]
    split
    · rw [Nat.ble_eq]
      omega
    · split
      · rw [Nat.blt_eq]
        omega
      · split
        · rw [Nat.ble_eq]
          omega
        · split
          · rw [Nat.blt_eq]
            omega
          · rfl
  simp only [readChar, hannounced, if_pos hsecond, toNat_continuation, Nat.add_sub_cancel_left]

theorem announced?_ofNat (lead : Nat) (hlead : lead < 256) :
    announced? (UInt8.ofNat lead) =
      if lead < 0x80 then some (0, lead)
      else if lead < 0xc2 then none
      else if lead < 0xe0 then some (1, lead - 0xc0)
      else if lead < 0xf0 then some (2, lead - 0xe0)
      else if lead < 0xf5 then some (3, lead - 0xf0)
      else none := by
  simp only [announced?, toNat_ofNat_of_lt hlead]

/-! ## Characters -/

/-- The numbers of characters leave out the surrogates. -/
theorem toNat_range (c : Char) : c.toNat < 0xd800 ∨ 0xdfff < c.toNat ∧ c.toNat < 0x110000 := by
  have hvalid := c.valid
  simp only [UInt32.isValidChar, Nat.isValidChar] at hvalid
  exact hvalid

/-- The octets of a character are read as the number of the character. -/
theorem readChar_encodeChar (c : Char) (rest : List UInt8) :
    ∃ lead more, encodeChar c = lead :: more ∧
      readChar lead (more ++ rest) = .character c.toNat (encodeChar c).length rest := by
  have hvalid := toNat_range c
  unfold encodeChar
  generalize c.toNat = n at hvalid ⊢
  by_cases h1 : n < 0x80
  · refine ⟨UInt8.ofNat n, [], if_pos h1, ?_⟩
    have hannounced := announced?_ofNat n (by omega)
    rw [if_pos h1] at hannounced
    simp only [if_pos h1, readChar, hannounced]
    rfl
  · by_cases h2 : n < 0x800
    · refine ⟨UInt8.ofNat (0xc0 + n / 64), [continuation n], by rw [if_neg h1, if_pos h2], ?_⟩
      have hannounced := announced?_ofNat (0xc0 + n / 64) (by omega)
      rw [if_neg (by omega), if_neg (by omega), if_pos (by omega)] at hannounced
      rw [List.cons_append, readChar_lead _ (by omega) hannounced (by omega) (by omega) (by omega)
        (by omega), if_neg h1, if_pos h2]
      simp only [readContinuations, List.nil_append]
      congr 1
      omega
    · by_cases h3 : n < 0x10000
      · refine ⟨UInt8.ofNat (0xe0 + n / 4096), [continuation (n / 64), continuation n],
          by rw [if_neg h1, if_neg h2, if_pos h3], ?_⟩
        have hannounced := announced?_ofNat (0xe0 + n / 4096) (by omega)
        rw [if_neg (by omega), if_neg (by omega), if_neg (by omega), if_pos (by omega)]
          at hannounced
        rw [List.cons_append, readChar_lead _ (by omega) hannounced (by omega) (by omega)
          (by omega) (by omega), if_neg h1, if_neg h2, if_pos h3, List.cons_append,
          readContinuations_continuation]
        simp only [readContinuations, List.nil_append]
        congr 1
        omega
      · refine ⟨UInt8.ofNat (0xf0 + n / 262144),
          [continuation (n / 4096), continuation (n / 64), continuation n],
          by rw [if_neg h1, if_neg h2, if_neg h3], ?_⟩
        have hannounced := announced?_ofNat (0xf0 + n / 262144) (by omega)
        rw [if_neg (by omega), if_neg (by omega), if_neg (by omega), if_neg (by omega),
          if_pos (by omega)] at hannounced
        rw [List.cons_append, readChar_lead _ (by omega) hannounced (by omega) (by omega)
          (by omega) (by omega), if_neg h1, if_neg h2, if_neg h3, List.cons_append,
          readContinuations_continuation, List.cons_append, readContinuations_continuation]
        simp only [readContinuations, List.nil_append]
        congr 1
        omega

/-! ## Texts -/

theorem decodeFrom_encodeChar (position : Nat) (c : Char) (rest : List UInt8) :
    decodeFrom position (encodeChar c ++ rest) =
      (decodeFrom (position + (encodeChar c).length) rest).map (c :: ·) := by
  obtain ⟨lead, more, hoctets, hread⟩ := readChar_encodeChar c rest
  rw [hoctets] at hread ⊢
  rw [List.cons_append, decodeFrom]
  split
  · rename_i heq
    rw [hread] at heq
    cases heq
  · rename_i heq
    rw [hread] at heq
    cases heq
    rw [Char.ofNat_toNat]

theorem decodeFrom_encode (position : Nat) (text : List Char) :
    decodeFrom position (encode text) = .ok text := by
  induction text generalizing position with
  | nil => rw [encode, List.flatMap_nil, decodeFrom]
  | cons c rest ih =>
    rw [encode, List.flatMap_cons, decodeFrom_encodeChar]
    change (decodeFrom _ (encode rest)).map (c :: ·) = _
    rw [ih]
    rfl

/-- Decoding the octets of a text gives the text. -/
theorem decode_encode (text : List Char) : decode (encode text) = .ok text :=
  decodeFrom_encode 0 text

/-- Of the octets of characters, only that of the zero character is zero. -/
theorem zero_notMem_encodeChar {c : Char} (hc : c ≠ '\x00') : (0 : UInt8) ∉ encodeChar c := by
  have hpos : c.toNat ≠ 0 := fun h => hc (Char.toNat_inj.1 h)
  have hvalid := toNat_range c
  unfold encodeChar
  generalize c.toNat = n at hpos hvalid ⊢
  simp only
  split
  · simp only [List.mem_singleton]
    exact ofNat_ne_zero (by omega) (by omega)
  · split
    · simp only [List.mem_cons, List.not_mem_nil, or_false, not_or]
      exact ⟨ofNat_ne_zero (by omega) (by omega), continuation_ne_zero _⟩
    · split
      · simp only [List.mem_cons, List.not_mem_nil, or_false, not_or]
        exact ⟨ofNat_ne_zero (by omega) (by omega), continuation_ne_zero _,
          continuation_ne_zero _⟩
      · simp only [List.mem_cons, List.not_mem_nil, or_false, not_or]
        exact ⟨ofNat_ne_zero (by omega) (by omega), continuation_ne_zero _,
          continuation_ne_zero _, continuation_ne_zero _⟩

theorem zero_notMem_encode {text : List Char} (htext : '\x00' ∉ text) :
    (0 : UInt8) ∉ encode text := by
  intro hmem
  obtain ⟨c, hc, hzero⟩ := List.mem_flatMap.1 hmem
  exact zero_notMem_encodeChar (fun h => htext (h ▸ hc)) hzero

end SymbolText.Text.Utf8
