import SymbolText.Yaml.Fault

/-!
# Places in a text

The reader of documents goes through a text from place to place and keeps count of lines and
columns, since indentation has a meaning.

* `isBreak`, `isBlank`, `isGap`: what ends a line, what separates words within it, and either.
* `startsSeparator`: whether a text starts with a mark between documents.
* `Cursor`: a place, with what follows it; `Cursor.next`, `skip` and `span` go on, and `look` only
  looks ahead.
* `Cursor.stop`, `fail`: reading stops at a place.
-/

namespace SymbolText.Yaml

/-! ## Characters -/

/-- A character that ends a line. -/
def isBreak (c : Char) : Bool :=
  c = '\n' || c = '\x85' || c = '\u2028' || c = '\u2029'

/-- A character that separates words within a line. -/
def isBlank (c : Char) : Bool := c = ' ' || c = '\t'

/-- A character that separates words. -/
def isGap (c : Char) : Bool := isBlank c || isBreak c

/-- Whether a character separates words, where a tab is part of one. -/
def isSpaceOrBreak (c : Char) : Bool := c = ' ' || isBreak c

/-- Whether a word ends before what may follow it. -/
def endsWord : Option Char → Bool
  | none => true
  | some c => isGap c

/-- What a line end stands for in a text. -/
def breakText (c : Char) : Char := if c = '\x85' then '\n' else c

/-- An ASCII letter or digit, a hyphen or an underscore. -/
def isWordChar (c : Char) : Bool := c.isAlphanum || c = '-' || c = '_'

/-- A hexadecimal digit. -/
def isHexDigit (c : Char) : Bool :=
  c.isDigit || ('a' ≤ c && c ≤ 'f') || ('A' ≤ c && c ≤ 'F')

/-- What follows one of the marks between documents. -/
def afterMark? : List Char → Option (List Char)
  | '-' :: '-' :: '-' :: rest | '.' :: '.' :: '.' :: rest => some rest
  | _ => none

/-- Whether a text starts with one of the marks between documents, as a word. -/
def startsSeparator (text : List Char) : Bool :=
  (afterMark? text).any fun rest => endsWord rest.head?

/-! ## Cursors -/

/-- A place in a text. -/
structure Cursor where
  /-- What follows. -/
  rest : List Char
  /-- The number of characters before. -/
  index : Nat
  /-- The number of lines before. -/
  line : Nat
  /-- The number of columns before on the line. -/
  column : Nat
  /-- The number of characters before the last one that has been looked at. -/
  seen : Nat

namespace Cursor

/-- The start of a text. -/
def start (text : List Char) : Cursor := ⟨text, 0, 0, 0, 0⟩

/-- Looks at the character after `n` others. -/
def look (n : Nat) (c : Cursor) : Cursor := { c with seen := max c.seen (c.index + n) }

/-- Looks whether a mark between documents comes next. -/
def lookForMark (c : Cursor) : Cursor := c.look (if (afterMark? c.rest).isSome then 3 else 2)

/-- The place after one more character; a byte-order mark takes no column. -/
def next (c : Cursor) : Cursor :=
  let seen := max c.seen (c.index + 1)
  match c.rest with
  | [] => c
  | ch :: rest =>
    if isBreak ch then ⟨rest, c.index + 1, c.line + 1, 0, seen⟩
    else if ch = '\ufeff' then ⟨rest, c.index + 1, c.line, c.column, seen⟩
    else ⟨rest, c.index + 1, c.line, c.column + 1, seen⟩

/-- The place after some more characters. -/
def skip : Nat → Cursor → Cursor
  | 0, c => c
  | n + 1, c => skip n c.next

/-- The next character. -/
def peek (c : Cursor) : Option Char := c.rest.head?

/-- The longest run of characters of a class, and the place after it. -/
def span (p : Char → Bool) (c : Cursor) : List Char × Cursor :=
  let run := c.rest.takeWhile p
  (run, skip run.length c)

/-- The place after spaces. -/
def skipSpaces (c : Cursor) : Cursor := (c.span (· = ' ')).2

/-- Whether a line ends, or a space follows. -/
def atSpaceOrEnd (c : Cursor) : Bool := c.peek.all isSpaceOrBreak

/-! ## Stopping -/

/-- Reading stops at a place with a fault. -/
def fail {α : Type} (c : Cursor) (fault : Fault) : Except Stop α := .error ⟨c.seen, fault⟩

/-- Reading stops at a place, where the text is not written as a document. -/
def stop {α : Type} (c : Cursor) : Except Stop α := c.fail .malformed

/-- What is read at a place if there is something, and else stopping there. -/
def orStop {α : Type} (c : Cursor) : Option α → Except Stop α
  | some a => .ok a
  | none => c.stop

/-- The place after the rest of a line, which may hold a comment only. -/
def skipRestOfLine (c : Cursor) : Except Stop Cursor :=
  let c := c.skipSpaces
  let c := if c.peek = some '#' then (c.span (!isBreak ·)).2 else c
  if c.peek.all isBreak then .ok c.next else c.stop

end Cursor

end SymbolText.Yaml
