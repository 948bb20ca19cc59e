import Mathlib.Data.List.DropRight
import SymbolText.Text.Line

/-!
# Lines, trimming and cutting of composed texts

What the operations on lines do to a text that is put together from parts.

Results:
* `lines_append`: the lines of two texts with a line feed between them.
* `lines_joinWith`: joining pieces by line feeds is undone by taking the lines.
* `trim_append_of_all`: more blanks at the ends do not change the trimmed text.
* `trim_around`: trimming a text around a character that is not trimmed works on either side.
* `cut?_append`: the first separator is where it was put.
-/

namespace SymbolText.Text

/-! ## Lines -/

theorem lines_of_notMem {text : List Char} (htext : '\n' ∉ text) : lines text = [text] := by
  induction text with
  | nil => rfl
  | cons c rest ih =>
    rw [List.mem_cons, not_or] at htext
    rw [lines, if_neg (Ne.symm htext.1), ih htext.2]

/-- A line feed ends a line wherever it stands. -/
theorem lines_append (text rest : List Char) :
    lines (text ++ '\n' :: rest) = lines text ++ lines rest := by
  induction text with
  | nil => exact lines_newline rest
  | cons c text ih =>
    by_cases hc : c = '\n'
    · rw [List.cons_append, lines, if_pos hc, lines, if_pos hc, ih, List.cons_append]
    · obtain ⟨line, more, hlines⟩ := List.exists_cons_of_ne_nil (lines_ne_nil text)
      rw [List.cons_append, lines, if_neg hc, lines, if_neg hc, ih, hlines]
      rfl

theorem lines_append_newline {text : List Char} (rest : List Char) (htext : '\n' ∉ text) :
    lines (text ++ '\n' :: rest) = text :: lines rest := by
  rw [lines_append, lines_of_notMem htext, List.singleton_append]

theorem joinWith_cons_cons {α : Type} (sep piece next : List α) (rest : List (List α)) :
    joinWith sep (piece :: next :: rest) = piece ++ (sep ++ joinWith sep (next :: rest)) :=
  List.append_assoc piece sep _

/-- The lines of pieces that are joined by line feeds are the pieces. -/
theorem lines_joinWith {pieces : List (List Char)} (hne : pieces ≠ [])
    (hpieces : ∀ piece ∈ pieces, '\n' ∉ piece) : lines (joinWith ['\n'] pieces) = pieces := by
  induction pieces with
  | nil => exact absurd rfl hne
  | cons piece more ih =>
    obtain ⟨hpiece, hmore⟩ := List.forall_mem_cons.1 hpieces
    cases more with
    | nil => exact lines_of_notMem hpiece
    | cons next rest =>
      rw [joinWith_cons_cons, List.singleton_append, lines_append_newline _ hpiece,
        ih (List.cons_ne_nil next rest) hmore]

/-- A joined text begins with its first piece. -/
theorem joinWith_cons {α : Type} (sep piece : List α) (more : List (List α)) :
    ∃ rest, joinWith sep (piece :: more) = piece ++ rest := by
  cases more with
  | nil => exact ⟨[], (List.append_nil piece).symm⟩
  | cons next rest => exact ⟨_, joinWith_cons_cons sep piece next rest⟩

/-- A joined text has the characters of its pieces and of the separator only. -/
theorem mem_of_mem_joinWith {α : Type} {sep : List α} {pieces : List (List α)} {c : α}
    (hc : c ∈ joinWith sep pieces) : c ∈ sep ∨ ∃ piece ∈ pieces, c ∈ piece := by
  induction pieces with
  | nil => cases hc
  | cons piece more ih =>
    cases more with
    | nil => exact .inr ⟨piece, List.mem_cons_self, hc⟩
    | cons next rest =>
      rw [joinWith_cons_cons, List.mem_append, List.mem_append] at hc
      rcases hc with hc | hc | hc
      · exact .inr ⟨piece, List.mem_cons_self, hc⟩
      · exact .inl hc
      · rcases ih hc with hsep | ⟨found, hfound, hmem⟩
        · exact .inl hsep
        · exact .inr ⟨found, List.mem_cons_of_mem piece hfound, hmem⟩

theorem mem_joinWith_of_mem {α : Type} (sep : List α) {pieces : List (List α)} {piece : List α}
    (hpiece : piece ∈ pieces) {c : α} (hc : c ∈ piece) : c ∈ joinWith sep pieces := by
  induction pieces with
  | nil => cases hpiece
  | cons first more ih =>
    cases more with
    | nil => rwa [← List.mem_singleton.1 hpiece]
    | cons next rest =>
      rw [joinWith_cons_cons, List.mem_append, List.mem_append]
      rcases List.mem_cons.1 hpiece with rfl | hmore
      · exact .inl hc
      · exact .inr (.inr (ih hmore))

/-- The lines of a text have its characters only. -/
theorem mem_of_mem_lines {text line : List Char} (hline : line ∈ lines text) {c : Char}
    (hc : c ∈ line) : c ∈ text := by
  rw [← joinWith_lines text]
  exact mem_joinWith_of_mem ['\n'] hline hc

theorem joinWith_map {α β : Type} (f : α → β) (sep : List α) (pieces : List (List α)) :
    joinWith (sep.map f) (pieces.map (List.map f)) = (joinWith sep pieces).map f := by
  induction pieces with
  | nil => rfl
  | cons piece more ih =>
    cases more with
    | nil => rfl
    | cons next rest =>
      rw [joinWith_cons_cons, List.map_append, List.map_append, ← ih]
      exact joinWith_cons_cons _ _ _ _

/-! ## Trimming -/

variable {p : Char → Bool}

theorem dropWhile_around {sep : Char} (hsep : p sep = false) (before after : List Char) :
    (before ++ sep :: after).dropWhile p = before.dropWhile p ++ sep :: after := by
  rw [List.dropWhile_append]
  split
  · rename_i hempty
    rw [List.isEmpty_iff.1 hempty, List.dropWhile_cons_of_neg (by simp [hsep]), List.nil_append]
  · rfl

theorem trimRight_around {sep : Char} (hsep : p sep = false) (before after : List Char) :
    trimRight p (before ++ sep :: after) = before ++ sep :: trimRight p after := by
  have hreverse : (before ++ sep :: after).reverse = after.reverse ++ sep :: before.reverse := by
    simp
  rw [trimRight, hreverse, dropWhile_around hsep]
  simp [trimRight]

/-- Around a character that is not trimmed, the parts are trimmed on their outer sides. -/
theorem trim_around {sep : Char} (hsep : p sep = false) (before after : List Char) :
    trim p (before ++ sep :: after) = before.dropWhile p ++ sep :: trimRight p after := by
  rw [trim, dropWhile_around hsep, trimRight_around hsep]

theorem trimRight_of_last {c : Char} (hc : p c = false) (text : List Char) :
    trimRight p (text ++ [c]) = text ++ [c] :=
  trimRight_around hc text []

theorem trimRight_append_of_all {blanks : List Char} (text : List Char)
    (hblanks : ∀ c ∈ blanks, p c = true) : trimRight p (text ++ blanks) = trimRight p text := by
  rw [trimRight, trimRight, List.reverse_append,
    List.dropWhile_append_of_pos fun c hc => hblanks c (List.mem_reverse.1 hc)]

theorem trimRight_of_all {text : List Char} (htext : ∀ c ∈ text, p c = true) :
    trimRight p text = [] :=
  trimRight_append_of_all [] htext

theorem dropWhile_eq_nil_of_all {text : List Char} (htext : ∀ c ∈ text, p c = true) :
    text.dropWhile p = [] := by
  rw [← List.append_nil text, List.dropWhile_append_of_pos htext, List.dropWhile_nil]

/-- A text has characters of the class only, or one that is not trimmed. -/
theorem all_or_around (p : Char → Bool) (text : List Char) :
    (∀ c ∈ text, p c = true) ∨
      ∃ before sep after, text = before ++ sep :: after ∧ p sep = false := by
  by_cases hall : ∀ c ∈ text, p c = true
  · exact .inl hall
  · right
    simp only [not_forall, Bool.not_eq_true] at hall
    obtain ⟨sep, hmem, hsep⟩ := hall
    obtain ⟨before, after, htext⟩ := List.append_of_mem hmem
    exact ⟨before, sep, after, htext, hsep⟩

/-- Trimming a text that is trimmed at its start already. -/
theorem trim_dropWhile (text : List Char) : trim p (text.dropWhile p) = trim p text := by
  rcases all_or_around p text with hall | ⟨before, sep, after, rfl, hsep⟩
  · rw [trim, trim, dropWhile_eq_nil_of_all hall]
    rfl
  · rw [dropWhile_around hsep, trim_around hsep, trim_around hsep, List.dropWhile_idempotent]

/-- Trimming a text that is trimmed at its end already. -/
theorem trim_trimRight (text : List Char) : trim p (trimRight p text) = trim p text := by
  rcases all_or_around p text with hall | ⟨before, sep, after, rfl, hsep⟩
  · rw [trimRight_of_all hall, trim, trim, dropWhile_eq_nil_of_all hall]
    rfl
  · have hidem : trimRight p (trimRight p after) = trimRight p after := by
      simp [trimRight, List.dropWhile_idempotent]
    rw [trimRight_around hsep, trim_around hsep, trim_around hsep, hidem]

/-- Trimming takes away what is to be trimmed, however much of it there is. -/
theorem trim_append_of_all {left right : List Char} (text : List Char)
    (hleft : ∀ c ∈ left, p c = true) (hright : ∀ c ∈ right, p c = true) :
    trim p (left ++ text ++ right) = trim p text := by
  have hend : trim p (left ++ text ++ right) = trim p (left ++ text) := by
    rw [← trim_trimRight, trimRight_append_of_all _ hright, trim_trimRight]
  rw [hend, ← trim_dropWhile, List.dropWhile_append_of_pos hleft, trim_dropWhile]

theorem dropWhile_of_none {text : List Char} (htext : ∀ c ∈ text, p c = false) :
    text.dropWhile p = text := by
  cases text with
  | nil => rfl
  | cons c rest => exact List.dropWhile_cons_of_neg (by simp [htext c List.mem_cons_self])

/-- There is nothing to trim in a text without the characters that are trimmed. -/
theorem trim_of_none {text : List Char} (htext : ∀ c ∈ text, p c = false) :
    trim p text = text := by
  have hreverse : ∀ c ∈ text.reverse, p c = false := fun c hc => htext c (List.mem_reverse.1 hc)
  rw [trim, dropWhile_of_none htext, trimRight, dropWhile_of_none hreverse, List.reverse_reverse]

theorem mem_of_mem_trim {text : List Char} {c : Char} (hc : c ∈ trim p text) : c ∈ text := by
  rw [trim, trimRight, List.mem_reverse] at hc
  have hstart := (List.dropWhile_sublist p).subset hc
  exact (List.dropWhile_sublist p).subset (List.mem_reverse.1 hstart)

/-- A character that is not trimmed stays the first one. -/
theorem head?_trim {text : List Char} {c : Char} (hhead : text.head? = some c)
    (hc : p c = false) : (trim p text).head? = some c := by
  obtain ⟨rest, rfl⟩ : ∃ rest, text = c :: rest := by
    cases text with
    | nil => cases hhead
    | cons d rest => exact ⟨rest, by rw [Option.some.inj hhead]⟩
  rw [← List.nil_append (c :: rest), trim_around hc]
  rfl

/-- What stays when a text is trimmed at its start begins alike if more blanks follow. -/
theorem head?_dropWhile_append {blanks : List Char} (text : List Char)
    (hblanks : ∀ c ∈ blanks, p c = true) :
    ((text ++ blanks).dropWhile p).head? = (text.dropWhile p).head? := by
  rcases all_or_around p text with hall | ⟨before, sep, after, rfl, hsep⟩
  · rw [List.dropWhile_append_of_pos hall, dropWhile_eq_nil_of_all hblanks,
      dropWhile_eq_nil_of_all hall]
  · rw [List.append_assoc, List.cons_append, dropWhile_around hsep, dropWhile_around hsep]
    cases before.dropWhile p <;> rfl

/-- What stays when a text is trimmed at its end ends alike if more blanks come first. -/
theorem getLast?_trimRight_append {blanks : List Char} (text : List Char)
    (hblanks : ∀ c ∈ blanks, p c = true) :
    (trimRight p (blanks ++ text)).getLast? = (trimRight p text).getLast? := by
  have hreverse := head?_dropWhile_append text.reverse
    fun c hc => hblanks c (List.mem_reverse.1 hc)
  simpa [trimRight] using hreverse

/-! ## Cutting -/

theorem cut?_of_notMem {sep : Char} {text : List Char} (htext : sep ∉ text) :
    cut? sep text = none := by
  induction text with
  | nil => rfl
  | cons c rest ih =>
    rw [List.mem_cons, not_or] at htext
    rw [cut?, if_neg (Ne.symm htext.1), ih htext.2]
    rfl

/-- A text is cut at the first separator. -/
theorem cut?_append {sep : Char} {before : List Char} (after : List Char)
    (hbefore : sep ∉ before) : cut? sep (before ++ sep :: after) = some (before, after) := by
  induction before with
  | nil => exact if_pos rfl
  | cons c before ih =>
    rw [List.mem_cons, not_or] at hbefore
    rw [List.cons_append, cut?, if_neg (Ne.symm hbefore.1), ih hbefore.2]
    rfl

end SymbolText.Text
