/-!
# Lines, trimming and cutting

Character-list operations shared by the readers: a text is split into lines at each line
feed, a line is trimmed of a class of characters at both ends, and cut at the first occurrence
of a separator.

* `lines`: the pieces between line feeds; a text without one is its own only line.
* `trim`: drops the longest run of characters of a class at either end.
* `cut?`: the text before and after the first separator.
* `joinWith`: the pieces with a separator between each two.
* `unifyLineEnds`: every line end as a line feed.
-/

namespace SymbolText.Text

/-- The pieces of a text between its line feeds (`split`). -/
def lines : List Char → List (List Char)
  | [] => [[]]
  | c :: rest =>
    if c = '\n' then [] :: lines rest
    else match lines rest with
      | [] => [[c]]
      | line :: more => (c :: line) :: more

/-- The text without the characters of class `p` at its end. -/
def trimRight (p : Char → Bool) (text : List Char) : List Char :=
  (text.reverse.dropWhile p).reverse

/-- The text without the characters of class `p` at either end (`strip`). -/
def trim (p : Char → Bool) (text : List Char) : List Char :=
  trimRight p (text.dropWhile p)

/-- The text before and after the first `sep`, if it occurs. -/
def cut? (sep : Char) : List Char → Option (List Char × List Char)
  | [] => none
  | c :: rest =>
    if c = sep then some ([], rest)
    else (cut? sep rest).map fun (before, after) => (c :: before, after)

/-- The pieces in order, with `sep` between each two. -/
def joinWith {α : Type} (sep : List α) : List (List α) → List α
  | [] => []
  | [piece] => piece
  | piece :: more => piece ++ sep ++ joinWith sep more

/-- The text with every line end written as a line feed. -/
def unifyLineEnds : List Char → List Char
  | '\r' :: '\n' :: rest => '\n' :: unifyLineEnds rest
  | '\r' :: rest => '\n' :: unifyLineEnds rest
  | c :: rest => c :: unifyLineEnds rest
  | [] => []

/-! ## Lines -/

theorem lines_ne_nil (text : List Char) : lines text ≠ [] := by
  cases text with
  | nil => simp [lines]
  | cons c rest =>
    rw [lines]
    split
    · simp
    · split <;> simp

theorem lines_newline (rest : List Char) : lines ('\n' :: rest) = [] :: lines rest := by
  simp [lines]

/-- A text is its lines joined by line feeds. -/
theorem joinWith_lines (text : List Char) : joinWith ['\n'] (lines text) = text := by
  induction text with
  | nil => rfl
  | cons c rest ih =>
    have hne := lines_ne_nil rest
    rw [lines]
    by_cases hc : c = '\n'
    · subst hc
      rw [if_pos rfl]
      cases h : lines rest with
      | nil => exact absurd h hne
      | cons line more => rw [h] at ih; simp [joinWith, ih]
    · rw [if_neg hc]
      cases h : lines rest with
      | nil => exact absurd h hne
      | cons line more =>
        rw [h] at ih
        cases more with
        | nil => simpa [joinWith] using ih
        | cons next more => simpa [joinWith] using ih

/-- No line holds a line feed. -/
theorem newline_notMem_of_mem_lines {text line : List Char} (h : line ∈ lines text) :
    '\n' ∉ line := by
  induction text generalizing line with
  | nil => simp [lines] at h; simp [h]
  | cons c rest ih =>
    rw [lines] at h
    split at h
    · rcases List.mem_cons.1 h with h | h
      · simp [h]
      · exact ih h
    · rename_i hc
      cases hl : lines rest with
      | nil => exact absurd hl (lines_ne_nil rest)
      | cons first more =>
        rw [hl] at h ih
        rcases List.mem_cons.1 h with h | h
        · subst h
          simp only [List.mem_cons, not_or]
          exact ⟨fun e => hc e.symm, ih (by simp)⟩
        · exact ih (by simp [h])

end SymbolText.Text
