/-!
# Code points and texts

A text is a sequence of code points. What is read from octets consists of characters, but an escape
or a directive may write any code point by its number, a surrogate too, which is no character.

* `CodePoint`, `Text`: the types.
* `CodePoint.number`, `CodePoint.ofNumber?`: the number of a code point, and the code point of a
  number.
* `Text.ofChars`, `Text.ofString`: a text of characters.
* `Text.chars?`, `Text.string?`: the characters of a text without surrogates.
* `Text.span`: the characters of a class at the front of a text.

Results: `CodePoint.number_injective`, and `Text.chars?_ofChars` (the characters of a text can be
had back).
-/

namespace SymbolText

/-- A character, or a surrogate. -/
inductive CodePoint
  | char (c : Char)
  /-- The surrogate that has `index` others before it. -/
  | surrogate (index : Fin 0x800)
  deriving DecidableEq

/-- A text. -/
abbrev Text := List CodePoint

namespace CodePoint

/-- The number of the first surrogate. -/
def firstSurrogate : Nat := 0xd800

/-- The number of a code point. -/
def number : CodePoint → Nat
  | char c => c.toNat
  | surrogate i => firstSurrogate + i

/-- The code point of a number, if there is one. -/
def ofNumber? (n : Nat) : Option CodePoint :=
  if n.isValidChar then some (char (Char.ofNat n))
  else if h : n - firstSurrogate < 0x800 then some (surrogate ⟨n - firstSurrogate, h⟩)
  else none

/-- The character that a code point is. -/
def char? : CodePoint → Option Char
  | char c => some c
  | surrogate _ => none

/-- A character in place of a code point: the replacement character for a surrogate. -/
def toChar (p : CodePoint) : Char := p.char?.getD '\ufffd'

/-- Whether a code point is a character of a class. -/
def isIn (p : Char → Bool) (c : CodePoint) : Bool := c.char?.any p

/-- No surrogate has the number of a character. -/
theorem number_char_ne (c : Char) (i : Fin 0x800) : (char c).number ≠ (surrogate i).number := by
  have h := c.valid
  simp only [UInt32.isValidChar, Nat.isValidChar] at h
  show c.val.toNat ≠ firstSurrogate + i
  unfold firstSurrogate
  omega

/-- A code point can be told from its number. -/
theorem number_injective {a b : CodePoint} (h : a.number = b.number) : a = b := by
  cases a <;> cases b
  · exact congrArg char (Char.toNat_inj.1 h)
  · exact absurd h (number_char_ne _ _)
  · exact absurd h.symm (number_char_ne _ _)
  · simp only [number, Nat.add_left_cancel_iff] at h
    exact congrArg surrogate (Fin.ext h)

end CodePoint

namespace Text

/-- The text of characters. -/
def ofChars (cs : List Char) : Text := cs.map .char

/-- The text of a string. -/
def ofString (s : String) : Text := ofChars s.toList

instance : Coe String Text := ⟨ofString⟩

/-- The characters of a text, unless there is a surrogate in it. -/
def chars? (text : Text) : Option (List Char) := text.mapM CodePoint.char?

/-- The string that a text is, unless there is a surrogate in it. -/
def string? (text : Text) : Option String := (chars? text).map String.ofList

/-- The longest run of characters of a class at the front of a text, and what follows it. -/
def span (p : Char → Bool) : Text → List Char × Text
  | .char c :: rest =>
    if p c then
      let (run, later) := span p rest
      (c :: run, later)
    else ([], .char c :: rest)
  | text => ([], text)

theorem length_span_le (p : Char → Bool) (text : Text) :
    (span p text).2.length ≤ text.length := by
  fun_induction span p text <;> simp_all [Nat.le_succ_of_le]

@[simp] theorem ofChars_append (a b : List Char) : ofChars (a ++ b) = ofChars a ++ ofChars b :=
  List.map_append

/-- Characters can be told from their text. -/
theorem ofChars_injective {a b : List Char} (h : ofChars a = ofChars b) : a = b :=
  List.map_inj_right (fun _ _ e => CodePoint.char.inj e) |>.1 h

/-- The characters of a text that was made of characters. -/
@[simp] theorem chars?_ofChars (cs : List Char) : chars? (ofChars cs) = some cs := by
  induction cs with
  | nil => rfl
  | cons c cs ih =>
    simp only [chars?, ofChars, List.map_cons, List.mapM_cons] at ih ⊢
    simp [ih, CodePoint.char?]

/-- The string that the text of a string is. -/
@[simp] theorem string?_ofString (s : String) : string? (ofString s) = some s := by
  simp [string?, ofString]

end Text

end SymbolText
