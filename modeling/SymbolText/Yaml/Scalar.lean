import SymbolText.Error
import SymbolText.Yaml.Cursor

/-!
# Written scalars

The text of a scalar in each of its styles. A line end inside a quoted or plain scalar becomes a
space, or is dropped where empty lines follow, which become line ends. A block scalar holds its
lines literally, or folded in the same way.

* `readQuoted`: a scalar in single or double quotes.
* `readPlain`: a scalar without quotes.
* `readBlock`: a block scalar.

Each gives the text and the place after it; the first and the last stop at a fault.
-/

namespace SymbolText.Yaml

/-! ## Folding -/

/-- A line end, folded with the empty lines after it. -/
def fold (lineEnd : Char) (emptyLines : List Char) : List Char :=
  if lineEnd ≠ '\n' then lineEnd :: emptyLines
  else if emptyLines = [] then [' ']
  else emptyLines

/-! ## Escapes -/

/-- The character of an escape of one letter. -/
def escaped? (c : Char) : Option Char :=
  match c with
  | '0' => some '\x00'
  | 'a' => some '\x07'
  | 'b' => some '\x08'
  | 't' => some '\t'
  | '\t' => some '\t'
  | 'n' => some '\n'
  | 'v' => some '\x0b'
  | 'f' => some '\x0c'
  | 'r' => some '\r'
  | 'e' => some '\x1b'
  | ' ' => some ' '
  | '"' => some '"'
  | '\\' => some '\\'
  | '/' => some '/'
  | 'N' => some '\x85'
  | '_' => some '\xa0'
  | 'L' => some '\u2028'
  | 'P' => some '\u2029'
  | _ => none

/-- The number of hexadecimal digits in an escape by code point. -/
def codeLength? (c : Char) : Option Nat :=
  match c with
  | 'x' => some 2
  | 'u' => some 4
  | 'U' => some 8
  | _ => none

/-- The code point of a written number. Beyond all code points, it depends on the sign of the number
as a word of 32 bits what is wrong with it. -/
def codePointOf (n : Nat) : Except Error CodePoint :=
  match CodePoint.ofNumber? n with
  | some p => .ok p
  | none => .error (if n < 0x80000000 then .codePointBeyond else .codePointBeyondWords)

/-- The number that `count` hexadecimal digits at a place write. -/
def readHex (count : Nat) (c : Cursor) : Except Stop (Nat × Cursor) :=
  let digits := (c.rest.take count).takeWhile isHexDigit
  if digits.length = count then .ok (Numeral.ofDigits 16 0 digits, c.skip count)
  else (c.look digits.length).stop

/-- The code point of an escape of `count` digits at a place. -/
def readCode (count : Nat) (c : Cursor) : Except Stop (CodePoint × Cursor) := do
  let (n, later) ← readHex count c
  match codePointOf n with
  | .ok p => .ok (p, later)
  | .error e => (c.look (count - 1)).fail (.unreadable e)

/-! ## Quoted scalars -/

/-- The line ends of empty lines inside quotes after some that are `reversed`, from the start of a
line on, and the place of the next word; a mark between documents is a fault. The first argument
bounds the number of the lines. -/
def readEmptyLines : Nat → List Char → Cursor → Except Stop (List Char × Cursor)
  | 0, _, c => c.stop
  | bound + 1, reversed, c =>
    let c := c.lookForMark
    if startsSeparator c.rest then c.stop
    else
      let (_, c) := c.span isBlank
      match c.peek.filter isBreak with
      | some ch => readEmptyLines bound (breakText ch :: reversed) c.next
      | none => .ok (reversed.reverse, c)

/-- The line ends of empty lines after the line end that comes next inside quotes. -/
def readLineEnd (c : Cursor) : Except Stop (List Char × Cursor) :=
  readEmptyLines c.rest.length [] c.next

/-- What an escape stands for, from the place after its backslash. -/
def readEscape (c : Cursor) : Except Stop (Text × Cursor) :=
  match c.peek with
  | none => c.stop
  | some letter =>
    match escaped? letter, codeLength? letter with
    | some d, _ => .ok ([.char d], c.next)
    | none, some n => (readCode n c.next).map fun (p, later) => ([p], later)
    | none, none =>
      if isBreak letter then (readLineEnd c).map fun (ends, later) => (.ofChars ends, later)
      else c.stop

/-- The text of blanks and line ends inside quotes. -/
def readGap (c : Cursor) : Except Stop (List Char × Cursor) :=
  let (blanks, c) := c.span isBlank
  match c.peek with
  | none => c.stop
  | some ch =>
    if isBreak ch then (readLineEnd c).map fun (ends, c) => (fold (breakText ch) ends, c)
    else .ok (blanks, c)

/-- The next piece of the text inside quotes. -/
def readPiece (double : Bool) (c : Cursor) : Except Stop (Text × Cursor) :=
  match c.peek with
  | none => c.stop
  | some ch =>
    if isGap ch then (readGap c).map fun (gap, later) => (.ofChars gap, later)
    else if double && ch = '\\' then readEscape c.next
    else if !double && ch = '\'' then .ok ([.char '\''], c.skip 2)
    else .ok ([.char ch], c.next)

/-- Whether a text starts with the closing quote. -/
def closesQuote (double : Bool) : List Char → Bool
  | '"' :: _ => double
  | '\'' :: '\'' :: _ => false
  | '\'' :: _ => !double
  | _ => false

/-- The text up to the closing quote, after one that is `reversed`. The first argument bounds the
number of its pieces. -/
def readQuotedFrom (double : Bool) : Nat → Text → Cursor → Except Stop (Text × Cursor)
  | 0, _, c => c.stop
  | bound + 1, reversed, c =>
    if closesQuote double c.rest then .ok (reversed.reverse, c.next)
    else match readPiece double c with
      | .error stop => .error stop
      | .ok (piece, later) => readQuotedFrom double bound (piece.reverse ++ reversed) later

/-- The quoted scalar at a place, from its opening quote on. -/
def readQuoted (double : Bool) (c : Cursor) : Except Stop (Text × Cursor) :=
  readQuotedFrom double c.rest.length [] c.next

/-! ## Plain scalars -/

/-- An indicator that ends a plain scalar inside a flow collection. -/
def isFlowIndicator (c : Char) : Bool :=
  c = ',' || c = '[' || c = ']' || c = '\x7b' || c = '\x7d'

/-- The length of the part of a plain scalar up to the next gap. -/
def plainLength (inFlow : Bool) : List Char → Nat
  | [] => 0
  | c :: rest =>
    let next := rest.head?
    if isGap c then 0
    else if c = ':' && (endsWord next || (inFlow && next.any isFlowIndicator)) then 0
    else if inFlow && (c = '?' || isFlowIndicator c) then 0
    else plainLength inFlow rest + 1

/-- The part of a plain scalar up to the next gap, and the place after it. What follows a colon
there has been looked at. -/
def readPlainPart (inFlow : Bool) (c : Cursor) : List Char × Cursor :=
  let n := plainLength inFlow c.rest
  let later := c.skip n
  (c.rest.take n, if later.peek = some ':' then later.look 1 else later)

/-- The line ends of empty lines inside a plain scalar after some that are `reversed`, and the place
of the next word; nothing is inside it where a mark between documents follows. The first argument
bounds the number of the lines. -/
def readPlainLines : Nat → List Char → Cursor → Option (List Char) × Cursor
  | 0, _, c => (none, c)
  | bound + 1, reversed, c =>
    let c := c.lookForMark
    if startsSeparator c.rest then (none, c)
    else
      let c := c.skipSpaces
      match c.peek.filter isBreak with
      | some ch => readPlainLines bound (breakText ch :: reversed) c.next
      | none => (some reversed.reverse, c)

/-- The gap between two parts of a plain scalar, the place after it, and whether a line ends in
it. A gap without text ends the scalar. -/
def readPlainGap (c : Cursor) : List Char × Cursor × Bool :=
  let (blanks, c) := c.span (· = ' ')
  match c.peek.filter isBreak with
  | none => (blanks, c, false)
  | some ch =>
    match readPlainLines c.rest.length [] c.next with
    | (some ends, later) => (fold (breakText ch) ends, later, true)
    | (none, later) => ([], later, true)

/-- A plain scalar after a text that is `reversed` and a gap, from the start of its next part on.
The last component tells whether a line ends between the scalar and the place after it. The third
argument bounds the number of its parts. -/
def readPlainFrom (inFlow : Bool) (indent : Int) :
    Nat → List Char → List Char → Bool → Cursor → List Char × Cursor × Bool
  | 0, reversed, _, newLine, c => (reversed.reverse, c, newLine)
  | bound + 1, reversed, gap, newLine, c =>
    let (part, afterPart) := readPlainPart inFlow c
    if part = [] then (reversed.reverse, afterPart, newLine)
    else
      let reversed := part.reverse ++ (gap.reverse ++ reversed)
      let (gap, later, newLine) := readPlainGap afterPart
      if gap = [] ∨ later.peek = some '#' ∨ (!inFlow ∧ (later.column : Int) < indent) then
        (reversed.reverse, later, newLine)
      else readPlainFrom inFlow indent bound reversed gap newLine later

/-- The plain scalar at a place, whose further lines are indented by `indent` at least. -/
def readPlain (inFlow : Bool) (indent : Int) (c : Cursor) : List Char × Cursor × Bool :=
  readPlainFrom inFlow indent c.rest.length [] [] false c

/-! ## Block scalars -/

/-- What becomes of the line ends at the end of a block scalar. -/
inductive Chomping
  /-- All are dropped. -/
  | strip
  /-- The first is kept. -/
  | clip
  /-- All are kept. -/
  | keep
  deriving DecidableEq, Repr

/-- The chomping that an indicator asks for. -/
def chomping? : Option Char → Option Chomping
  | some '+' => some .keep
  | some '-' => some .strip
  | _ => none

/-- The indentation that a block scalar may ask for by a digit, which is not zero. -/
def readIndentation (c : Cursor) : Except Stop (Option Nat × Cursor) :=
  match c.peek.filter Char.isDigit with
  | some '0' => c.stop
  | some d => .ok (some (Numeral.ofDigits 10 0 [d]), c.next)
  | none => .ok (none, c)

/-- The header of a block scalar: its chomping and its indentation, in either order. -/
def readBlockHeader (c : Cursor) : Except Stop (Chomping × Option Nat × Cursor) := do
  let (before, c) := match chomping? c.peek with
    | some chomping => (some chomping, c.next)
    | none => (none, c)
  let (indentation, c) ← readIndentation c
  let (chomping, c) := match before, chomping? c.peek with
    | none, some chomping => (chomping, c.next)
    | before, _ => (before.getD .clip, c)
  if c.atSpaceOrEnd then .ok (chomping, indentation, c) else c.stop

/-- The line ends of the empty lines before a block scalar, the deepest indentation among them
and the line after them, and the number of characters. -/
def leadingLines (column deepest : Nat) : List Char → List Char × Nat × Nat
  | [] => ([], deepest, 0)
  | c :: rest =>
    if c = ' ' then
      let (ends, d, n) := leadingLines (column + 1) (max deepest (column + 1)) rest
      (ends, d, n + 1)
    else if isBreak c then
      let (ends, d, n) := leadingLines 0 deepest rest
      (breakText c :: ends, d, n + 1)
    else ([], deepest, 0)

/-- The line ends of the empty lines inside a block scalar, and the number of characters up to
the indentation of its next line. -/
def emptyLinesInBlock (indent column : Nat) : List Char → List Char × Nat
  | [] => ([], 0)
  | c :: rest =>
    if c = ' ' ∧ column < indent then
      let (ends, n) := emptyLinesInBlock indent (column + 1) rest
      (ends, n + 1)
    else if isBreak c then
      let (ends, n) := emptyLinesInBlock indent 0 rest
      (breakText c :: ends, n + 1)
    else ([], 0)

/-- Whether a line of a block scalar is at a place. -/
def atBlockLine (indent : Nat) (c : Cursor) : Bool := c.column = indent && !c.rest.isEmpty

/-- Whether a blank comes next. -/
def atBlank (c : Cursor) : Bool := c.peek.any isBlank

/-- What stands between two lines of a block scalar, beside empty lines. -/
def blockGlue (folded spaced : Bool) (lineEnd emptyLines : List Char) : List Char :=
  if folded && lineEnd == ['\n'] && !spaced then
    if emptyLines = [] then [' '] else []
  else lineEnd

/-- The lines of a block scalar after a text that is `reversed` and some empty lines: the text, its
last line end, the line ends of empty lines at the end, and the place after it. The third argument
bounds the number of lines. -/
def readBlockLines (folded : Bool) (indent : Nat) :
    Nat → List Char → List Char → Cursor → List Char × List Char × List Char × Cursor
  | 0, reversed, emptyLines, c => (reversed.reverse, [], emptyLines, c)
  | bound + 1, reversed, emptyLines, c =>
    if !atBlockLine indent c then (reversed.reverse, [], emptyLines, c)
    else
      let (line, afterLine) := c.span (!isBreak ·)
      let reversed := line.reverse ++ (emptyLines.reverse ++ reversed)
      let lineEnd := (afterLine.peek.map breakText).toList
      let nextLine := afterLine.next
      let (ends, n) := emptyLinesInBlock indent nextLine.column nextLine.rest
      let later := nextLine.skip n
      if !atBlockLine indent later then (reversed.reverse, lineEnd, ends, later)
      else
        let glue := blockGlue folded (atBlank c || atBlank later) lineEnd ends
        readBlockLines folded indent bound (glue.reverse ++ reversed) ends later

/-- The block scalar at a place, from its indicator on, inside a block of a given
indentation. -/
def readBlock (folded : Bool) (outer : Int) (c : Cursor) : Except Stop (List Char × Cursor) := do
  let (chomping, indentation, c) ← readBlockHeader c.next
  let c ← c.skipRestOfLine
  let least := (max 1 (outer + 1)).toNat
  let (indent, ends, n) := match indentation with
    | some d =>
      let indent := least + d - 1
      let (ends, n) := emptyLinesInBlock indent c.column c.rest
      (indent, ends, n)
    | none =>
      let (ends, deepest, n) := leadingLines c.column 0 c.rest
      (max least deepest, ends, n)
  let (text, lineEnd, ends, c) := readBlockLines folded indent c.rest.length [] ends (c.skip n)
  let ending := match chomping with
    | .strip => []
    | .clip => lineEnd
    | .keep => lineEnd ++ ends
  .ok (text ++ ending, c)

end SymbolText.Yaml
