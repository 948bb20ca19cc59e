import SymbolText.Text.CodePoint

/-!
# Quoted texts

A text is quoted by a double quote at either end. Inside, six escapes of two characters stand
for the characters that cannot be written plainly: `\0`, `\t`, `\n`, `\r`, `\"` and `\\`.

The model of `scan_quoted`.

* `escapeCode?`, `unescape?`: the letter of a character's escape, and the character of a
  letter.
* `escape`, `quote`: the written form of a text.
* `scanBody?`, `scan?`: reading quoted characters up to the closing quote.
* `scanTextBody?`, `scanText?`: reading a quoted text, in which there may be surrogates.

Reading is lenient at the ends: what follows the closing quote is ignored, a text without a
closing quote extends to the end, a backslash there is dropped, and no text at all reads as
the empty one. An unknown escape or a missing opening quote is an error.

Results: `mem_escape` (which characters a written body has), `scanBody?_escape` and `scan?_quote`
(reading gives back what was written, whatever follows), and `scanText?_ofChars` (characters are
read alike as a text).
-/

namespace SymbolText.Text.Quoted

/-- The letter after the backslash in the escape of a character that has one. -/
def escapeCode? (c : Char) : Option Char :=
  if c = '\x00' then some '0'
  else if c = '\t' then some 't'
  else if c = '\n' then some 'n'
  else if c = '\r' then some 'r'
  else if c = '"' then some '"'
  else if c = '\\' then some '\\'
  else none

/-- The character that an escape letter stands for (`_ESCAPES`). -/
def unescape? (c : Char) : Option Char :=
  if c = '0' then some '\x00'
  else if c = 't' then some '\t'
  else if c = 'n' then some '\n'
  else if c = 'r' then some '\r'
  else if c = '"' then some '"'
  else if c = '\\' then some '\\'
  else none

/-- The body of the quoted form: every character that has an escape is written as it. -/
def escape : List Char → List Char
  | [] => []
  | c :: rest =>
    match escapeCode? c with
    | some letter => '\\' :: letter :: escape rest
    | none => c :: escape rest

/-- The quoted form of a text. -/
def quote (text : List Char) : List Char := '"' :: (escape text ++ ['"'])

/-- Decodes up to the first quote that is not escaped, where `escaped` says that a backslash
came just before; `none` at an unknown escape. -/
def scanBody? (escaped : Bool) : List Char → Option (List Char)
  | [] => some []
  | c :: rest =>
    if escaped then
      match unescape? c with
      | none => none
      | some d => (scanBody? false rest).map (d :: ·)
    else if c = '"' then some []
    else if c = '\\' then scanBody? true rest
    else (scanBody? false rest).map (c :: ·)

/-- Decodes a quoted text (`scan_quoted`); `none` if it does not start with a quote or holds an
unknown escape. -/
def scan? : List Char → Option (List Char)
  | [] => some []
  | c :: rest => if c = '"' then scanBody? false rest else none

/-- Decodes a text in the same way. A surrogate stands for itself, and makes no escape. -/
def scanTextBody? (escaped : Bool) : Text → Option Text
  | [] => some []
  | p :: rest =>
    if escaped then
      match p.char?.bind unescape? with
      | none => none
      | some d => (scanTextBody? false rest).map (.char d :: ·)
    else if p = .char '"' then some []
    else if p = .char '\\' then scanTextBody? true rest
    else (scanTextBody? false rest).map (p :: ·)

/-- Decodes a quoted text, in which there may be surrogates (`scan_quoted`). -/
def scanText? : Text → Option Text
  | [] => some []
  | p :: rest => if p = .char '"' then scanTextBody? false rest else none

/-! ## Reading characters as a text -/

theorem scanTextBody?_ofChars (escaped : Bool) (cs : List Char) :
    scanTextBody? escaped (ofChars cs) = (scanBody? escaped cs).map ofChars := by
  induction cs generalizing escaped with
  | nil => rfl
  | cons c rest ih =>
    rw [show ofChars (c :: rest) = .char c :: ofChars rest from rfl, scanTextBody?, scanBody?]
    cases escaped with
    | true =>
      simp only [if_true, CodePoint.char?, Option.bind_some]
      cases unescape? c with
      | none => rfl
      | some d =>
        simp only [ih, Option.map_map]
        rfl
    | false =>
      simp only [Bool.false_eq_true, if_false, CodePoint.char.injEq, ih]
      split
      · rfl
      · split
        · rfl
        · simp only [Option.map_map]
          rfl

/-- Characters are read alike as a text. -/
theorem scanText?_ofChars (cs : List Char) : scanText? (ofChars cs) = (scan? cs).map ofChars := by
  cases cs with
  | nil => rfl
  | cons c rest =>
    rw [show ofChars (c :: rest) = .char c :: ofChars rest from rfl, scanText?, scan?]
    simp only [CodePoint.char.injEq, scanTextBody?_ofChars]
    split <;> rfl

/-! ## Reading what was written -/

/-- The letter of an escape leads back to its character. -/
theorem unescape?_of_escapeCode? {c letter : Char} (h : escapeCode? c = some letter) :
    unescape? letter = some c := by
  unfold escapeCode? at h
  repeat' split at h
  all_goals simp_all <;> subst h <;> rfl

/-- A character without an escape is neither a quote nor a backslash. -/
theorem ne_of_escapeCode?_none {c : Char} (h : escapeCode? c = none) : c ≠ '"' ∧ c ≠ '\\' := by
  unfold escapeCode? at h
  repeat' split at h
  all_goals simp_all

/-- The characters that escapes are written with. -/
def escapeChars : List Char := ['\\', '0', 't', 'n', 'r', '"']

theorem mem_escapeChars_of_escapeCode? {c letter : Char} (h : escapeCode? c = some letter) :
    letter ∈ escapeChars := by
  unfold escapeCode? at h
  repeat' split at h
  all_goals simp_all <;> subst h <;> decide

/-- A written body has characters without an escape and those of escapes only. -/
theorem mem_escape {c : Char} {text : List Char} (h : c ∈ escape text) :
    escapeCode? c = none ∨ c ∈ escapeChars := by
  induction text with
  | nil => cases h
  | cons d rest ih =>
    rw [escape] at h
    cases hd : escapeCode? d with
    | some letter =>
      simp only [hd, List.mem_cons] at h
      rcases h with rfl | rfl | h
      · exact .inr (by decide)
      · exact .inr (mem_escapeChars_of_escapeCode? hd)
      · exact ih h
    | none =>
      simp only [hd, List.mem_cons] at h
      rcases h with rfl | h
      · exact .inl hd
      · exact ih h

/-- Reading the body of a quoted form gives the text, whatever follows the closing quote. -/
theorem scanBody?_escape (text tail : List Char) :
    scanBody? false (escape text ++ '"' :: tail) = some text := by
  induction text with
  | nil => simp [escape, scanBody?]
  | cons c rest ih =>
    rw [escape]
    cases h : escapeCode? c with
    | some letter => simp [scanBody?, unescape?_of_escapeCode? h, ih]
    | none => simp [scanBody?, ne_of_escapeCode?_none h, ih]

/-- Reading a quoted form gives the text, whatever follows. -/
theorem scan?_quote (text tail : List Char) : scan? (quote text ++ tail) = some text := by
  simp [quote, scan?, scanBody?_escape]

end SymbolText.Text.Quoted
