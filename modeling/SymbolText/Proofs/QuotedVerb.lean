import SymbolText.Proofs.QuotedGrammar
import SymbolText.Proofs.Substitution

/-!
# Reading gives back what the quoting verb writes

The verb `q` writes a text between double quotes, with a backslash before each quote and each
backslash. This is a quoted text of catalogs, though it needs two of the six escapes only: every
backslash in it has a quote or a backslash after it, so that the closing quote is the first that is
not escaped.

* `replaceEach`: a text with each occurrence of a code point replaced.
* `quotedBody`: what is written between the quotes.

Results:
* `quote_eq_replaceEach`: backslashes are doubled first, and then quotes get theirs.
* `decodes_quotedBody`, `body_quotedBody`: what is between the quotes is of the grammar, and reading
  stops behind it.
* `scanText?_quote`, `scan?_of_quote`: a quoted text is read back, whatever follows it.
* `fill_quoted_read`: the same for what is filled in for the verb.
-/

namespace SymbolText

/-! ## Replacing -/

/-- A text with each occurrence of `old` replaced. -/
def replaceEach (old : CodePoint) (new text : Text) : Text :=
  text.flatMap fun p => if p = old then new else [p]

theorem replaceEach_cons (old : CodePoint) (new : Text) (p : CodePoint) (rest : Text) :
    replaceEach old new (p :: rest) = (if p = old then new else [p]) ++ replaceEach old new rest :=
  List.flatMap_cons

theorem replaceEach_append (old : CodePoint) (new a b : Text) :
    replaceEach old new (a ++ b) = replaceEach old new a ++ replaceEach old new b :=
  List.flatMap_append

namespace Verb

theorem isEscaped_iff (p : CodePoint) : isEscaped p = true ↔ p = .char '"' ∨ p = .char '\\' := by
  rw [isEscaped, Bool.or_eq_true, beq_iff_eq, beq_iff_eq]

theorem not_isEscaped_iff (p : CodePoint) :
    ¬ isEscaped p = true ↔ p ≠ .char '"' ∧ p ≠ .char '\\' := by
  rw [isEscaped_iff, not_or]

/-- The backslashes are doubled first, and then each quote gets one of its own: no backslash that is
written for a quote is doubled, and no quote is written for a backslash. -/
theorem quote_eq_replaceEach (text : Text) :
    quote text = .char '"' :: (replaceEach (.char '"') [.char '\\', .char '"']
      (replaceEach (.char '\\') [.char '\\', .char '\\'] text) ++ [.char '"']) := by
  rw [quote]
  congr 2
  induction text with
  | nil => rfl
  | cons p rest ih =>
    rw [List.flatMap_cons, ih, replaceEach_cons, replaceEach_append]
    congr 1
    by_cases hquote : p = .char '"'
    · subst hquote
      rfl
    · by_cases hbackslash : p = .char '\\'
      · subst hbackslash
        rfl
      · have hplain : ¬ isEscaped p = true := (not_isEscaped_iff p).2 ⟨hquote, hbackslash⟩
        rw [if_neg hplain, if_neg hbackslash, replaceEach_cons, if_neg hquote]
        rfl

end Verb

namespace Text.Quoted

/-! ## Reading back -/

/-- What the verb writes between the quotes. -/
def quotedBody (text : Text) : Text :=
  text.flatMap fun p => if Verb.isEscaped p then [.char '\\', p] else [p]

theorem quotedBody_cons (p : CodePoint) (rest : Text) :
    quotedBody (p :: rest) =
      (if Verb.isEscaped p then [.char '\\', p] else [p]) ++ quotedBody rest :=
  List.flatMap_cons

theorem quote_eq_quotedBody (text : Text) :
    Verb.quote text = .char '"' :: (quotedBody text ++ [.char '"']) :=
  rfl

/-- What is between the quotes is of the grammar, and stands for the text. -/
theorem decodes_quotedBody (text : Text) : Decodes (quotedBody text) text := by
  induction text with
  | nil => exact .nil
  | cons p rest ih =>
    rw [quotedBody_cons]
    split
    · rename_i hescaped
      refine .escape ?_ ih
      rcases (Verb.isEscaped_iff p).1 hescaped with rfl | rfl <;> decide
    · rename_i hplain
      obtain ⟨hquote, hbackslash⟩ := (Verb.not_isEscaped_iff p).1 hplain
      exact .plain hquote hbackslash ih

/-- The quote behind it is the first that is not escaped. -/
theorem body_quotedBody (text tail : Text) :
    body (quotedBody text ++ .char '"' :: tail) = quotedBody text := by
  induction text with
  | nil => exact body_quote tail
  | cons p rest ih =>
    rw [quotedBody_cons]
    split
    · rw [List.append_assoc, List.cons_append, List.singleton_append, body_escape, ih]
      rfl
    · rename_i hplain
      obtain ⟨hquote, hbackslash⟩ := (Verb.not_isEscaped_iff p).1 hplain
      rw [List.append_assoc, List.singleton_append, body_plain _ hquote hbackslash, ih]
      rfl

/-- A quoted text is read back, whatever follows it. -/
theorem scanText?_quote (text tail : Text) : scanText? (Verb.quote text ++ tail) = some text := by
  rw [quote_eq_quotedBody, List.cons_append, List.append_assoc, List.singleton_append, scanText?,
    if_pos rfl, scanTextBody?_eq_some_iff, body_quotedBody]
  exact .inl (decodes_quotedBody text)

/-- The verb writes characters for characters. -/
theorem exists_quotedBody_ofChars (cs : List Char) :
    ∃ inner, quotedBody (ofChars cs) = ofChars inner := by
  induction cs with
  | nil => exact ⟨[], rfl⟩
  | cons c rest ih =>
    obtain ⟨inner, hinner⟩ := ih
    rw [show ofChars (c :: rest) = .char c :: ofChars rest from rfl, quotedBody_cons, hinner]
    split
    · exact ⟨'\\' :: c :: inner, rfl⟩
    · exact ⟨c :: inner, rfl⟩

/-- The characters of a quoted text are read back, whatever follows them. -/
theorem scan?_of_quote {cs written : List Char}
    (hwritten : Verb.quote (ofChars cs) = ofChars written) (tail : List Char) :
    scan? (written ++ tail) = some cs := by
  have hread := scanText?_quote (ofChars cs) (ofChars tail)
  rw [hwritten, ← ofChars_append, scanText?_ofChars] at hread
  obtain ⟨cs', hscan, hsame⟩ := Option.map_eq_some_iff.1 hread
  rw [hscan, ofChars_injective hsame]

end Text.Quoted

namespace Template

open Text.Quoted

/-! ## Filling in -/

theorem fill_nil : fill [] [] = .ok [] := by
  rw [fill, Piece.ofTemplate]
  rfl

/-- Nothing is cut or padded where nothing is asked for. -/
theorem padText_of_none (text : Text) :
    Spec.padText ⟨false, false, false, false, false, 0, none⟩ text = text := by
  simp only [Spec.padText, Spec.padWith, Nat.zero_sub, List.replicate_zero, List.nil_append,
    Bool.false_eq_true, if_false]

/-- The verb without flags, width and precision writes the text between quotes. -/
theorem fill_quoted (text : Text) :
    fill (.ofString "%q") [.text text] = .ok (Verb.quote text) := by
  have hform : (⟨[], [], none, 'q'⟩ : Directive).IsForm := by decide
  have hformat : (⟨[], [], none, 'q'⟩ : Directive).normalize.format (.text text) =
      .ok (Verb.quote text) := by
    change Except.ok (Spec.padText ⟨false, false, false, false, false, 0, none⟩ _) = _
    rw [padText_of_none]
  have hfill := fill_directive hform hformat [] []
  rw [fill_nil, List.append_nil, Except.map, List.append_nil] at hfill
  exact hfill

/-- **Reading gives back what the quoting verb writes.** For every text the verb writes it between
quotes, with its backslashes doubled first and a backslash before each quote then. Reading this
gives the text, whatever follows, so that no other text is written alike. What is between the quotes
is of the grammar of quoted texts, and the quote behind it is where reading stops. A text of
characters is written with characters, which are read back as those of a catalog. -/
theorem fill_quoted_read (s : Text) :
    ∃ written, fill (.ofString "%q") [.text s] = .ok written ∧
      written = .char '"' :: (replaceEach (.char '"') [.char '\\', .char '"']
        (replaceEach (.char '\\') [.char '\\', .char '\\'] s) ++ [.char '"']) ∧
      (∀ tail, scanText? (written ++ tail) = some s) ∧
      (∀ other, fill (.ofString "%q") [.text other] = .ok written → other = s) ∧
      ∃ inner, written = .char '"' :: (inner ++ [.char '"']) ∧ Decodes inner s ∧
        (∀ tail, body (inner ++ .char '"' :: tail) = inner) ∧
        ∀ cs, s = .ofChars cs → ∃ chars, inner = .ofChars chars ∧
          ∀ tail, scan? ('"' :: (chars ++ '"' :: tail)) = some cs := by
  refine ⟨Verb.quote s, fill_quoted s, Verb.quote_eq_replaceEach s, scanText?_quote s, ?_,
    quotedBody s, quote_eq_quotedBody s, decodes_quotedBody s, body_quotedBody s, ?_⟩
  · intro other hother
    rw [fill_quoted, Except.ok.injEq] at hother
    have hread := scanText?_quote other []
    rw [hother, scanText?_quote, Option.some.injEq] at hread
    exact hread.symm
  · rintro cs rfl
    obtain ⟨chars, hchars⟩ := exists_quotedBody_ofChars cs
    refine ⟨chars, hchars, fun tail => ?_⟩
    have hwritten : Verb.quote (.ofChars cs) = .ofChars ('"' :: (chars ++ ['"'])) := by
      rw [quote_eq_quotedBody, hchars, show Text.ofChars ('"' :: (chars ++ ['"'])) =
        .char '"' :: Text.ofChars (chars ++ ['"']) from rfl, Text.ofChars_append]
      rfl
    have hread := scan?_of_quote hwritten tail
    rwa [List.cons_append, List.append_assoc, List.singleton_append] at hread

end Template

end SymbolText
