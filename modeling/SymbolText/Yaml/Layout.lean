import SymbolText.Yaml.Property
import SymbolText.Yaml.Scalar

/-!
# From text to tokens

Tokens are found from place to place. Indentation opens and closes blocks, and a node turns out
to be a key only at the colon after it, which has to come on the same line and soon.

* `Layout`: what is known at a place: the tokens so far, the open blocks and the nodes that may
  turn out to be keys.
* `Layout.token`: finds the next token.
* `Scan`, `scan`: the tokens of a text, each with the place where it is known.
-/

namespace SymbolText.Yaml

/-- A node that may turn out to be a key. -/
structure Candidate where
  /-- The number of tokens before it. -/
  position : Nat
  /-- It can be nothing but a key. -/
  required : Bool
  start : Cursor

/-- What is known at a place. -/
structure Layout where
  cursor : Cursor
  tokens : Array Token
  /-- The number of open flow collections; below zero where more have ended than started. -/
  flowLevel : Int
  /-- The indentation of the innermost block; −1 outside of blocks. -/
  indent : Int
  /-- The indentations of the blocks around it. -/
  outer : List Int
  /-- A key may start here. -/
  keyAllowed : Bool
  /-- The candidates for keys, by the flow collection that they are in. -/
  candidates : List (Int × Candidate)
  /-- For each token that no other token can come before any more, the number of characters before
  the last one that has to be looked at to know this. -/
  known : Array Nat

/-- What is found in a text. -/
structure Scan where
  /-- The tokens, each with the place of the last character that has to be looked at to know it. -/
  tokens : List (Token × Nat)
  /-- Where no more tokens can be found. -/
  stop : Stop

namespace Scan

/-- The next token. -/
def head? (s : Scan) : Option Token := s.tokens.head?.map (·.1)

/-- What follows the next token. -/
def tail (s : Scan) : Scan := { s with tokens := s.tokens.tail }

/-- Stopping at the next token, or where there are no more. -/
def refusal (s : Scan) : Stop :=
  match s.tokens with
  | (_, place) :: _ => ⟨place, .malformed⟩
  | [] => s.stop

end Scan

namespace Layout

/-- The start of a text. -/
def start (text : List Char) : Layout :=
  { cursor := .start text
    tokens := #[]
    flowLevel := 0
    indent := -1
    outer := []
    keyAllowed := true
    candidates := []
    known := #[] }

/-- Whether the place is inside a flow collection. -/
def inFlow (l : Layout) : Bool := l.flowLevel ≠ 0

/-- Adds a token and goes to the place after it. -/
def emit (l : Layout) (t : Token) (c : Cursor) : Layout :=
  { l with cursor := c, tokens := l.tokens.push t }

/-- Adds a token of some characters. -/
def emitChars (l : Layout) (t : Token) (n : Nat) : Layout := l.emit t (l.cursor.skip n)

/-- Adds tokens before the one at a position. -/
def insertAt (l : Layout) (position : Nat) (ts : List Token) : Layout :=
  let before := l.tokens.extract 0 position
  let after := l.tokens.extract position l.tokens.size
  { l with tokens := before ++ ts.toArray ++ after }

/-! ## Space between tokens -/

/-- The number of characters before the next token: spaces, comments and line ends. -/
def gapLength (inComment : Bool) : List Char → Nat
  | [] => 0
  | c :: rest =>
    if isBreak c then gapLength false rest + 1
    else if inComment then gapLength true rest + 1
    else if c = ' ' then gapLength false rest + 1
    else if c = '#' then gapLength true rest + 1
    else 0

/-- Goes to the next token. Where a line ends before it, a key may start. -/
def skipGap (l : Layout) : Layout :=
  let c := if l.cursor.index = 0 ∧ l.cursor.peek = some '\ufeff' then l.cursor.next else l.cursor
  let later := c.skip (gapLength false c.rest)
  { l with
    cursor := later
    keyAllowed := l.keyAllowed || (!l.inFlow && later.line ≠ c.line) }

/-! ## Candidates for keys -/

/-- The largest distance between the start of a key and its colon. -/
def maxKeyLength : Nat := 1024

/-- Whether a colon at a place comes too late for a candidate. -/
def isStale (c : Cursor) (k : Candidate) : Bool :=
  k.start.line ≠ c.line || Nat.blt maxKeyLength (c.index - k.start.index)

/-- Drops the candidates that came to nothing; those that had to be keys are a fault. -/
def dropStale? (l : Layout) : Option Layout :=
  let stale := l.candidates.filter fun k => isStale l.cursor k.2
  if stale.any fun k => k.2.required then none
  else some { l with candidates := l.candidates.filter fun k => !isStale l.cursor k.2 }

/-- The candidate of the innermost collection. -/
def candidate? (l : Layout) : Option Candidate :=
  (l.candidates.find? fun k => k.1 == l.flowLevel).map (·.2)

/-- The layout without the candidate of the innermost collection. -/
def removeCandidate (l : Layout) : Layout :=
  { l with candidates := l.candidates.filter fun k => k.1 != l.flowLevel }

/-- Drops the candidate of the innermost collection, which must not have had to be a key. -/
def dropCandidate? (l : Layout) : Option Layout :=
  if l.candidate?.any (·.required) then none else some l.removeCandidate

/-- Makes the node that starts here a candidate, if a key may start here. -/
def saveCandidate? (l : Layout) : Option Layout :=
  if l.keyAllowed then do
    let required := !l.inFlow && l.indent == (l.cursor.column : Int)
    let candidate : Candidate := ⟨l.tokens.size, required, l.cursor⟩
    let l ← l.dropCandidate?
    some { l with candidates := (l.flowLevel, candidate) :: l.candidates }
  else some l

/-! ## Blocks -/

/-- The blocks that end where the indentation is `column`: their number, and the indentations
that remain. -/
def endedBlocks (column indent : Int) : List Int → Nat × Int × List Int
  | [] => (0, indent, [])
  | next :: outer =>
    if column < indent then
      let (n, indent, outer) := endedBlocks column next outer
      (n + 1, indent, outer)
    else (0, indent, next :: outer)

/-- Ends the blocks that are indented by more than `column`; flow collections ignore
indentation. -/
def closeBlocks (l : Layout) (column : Int) : Layout :=
  if l.inFlow then l
  else
    let (n, indent, outer) := endedBlocks column l.indent l.outer
    { l with
      tokens := l.tokens ++ Array.replicate n Token.blockEnd
      indent := indent
      outer := outer }

/-- Opens a block at a column, if it is deeper than the innermost block; its start is the token
at `position`. -/
def openBlock (l : Layout) (column : Int) (t : Token) (position : Nat) : Layout :=
  if l.indent < column then
    { l.insertAt position [t] with indent := column, outer := l.indent :: l.outer }
  else l

/-! ## Tokens -/

/-- Ends all blocks, as a mark between documents or a directive does. -/
def endDocument? (l : Layout) : Option Layout := do
  let l ← (l.closeBlocks (-1)).dropCandidate?
  some { l with keyAllowed := false }

/-- What a layout becomes if that is possible at its place. -/
def orStop (l : Layout) (later : Option Layout) : Except Stop Layout := l.cursor.orStop later

/-- A directive, which ends all blocks. -/
def directive (l : Layout) : Except Stop Layout := do
  let l ← l.orStop l.endDocument?
  let (t, c) ← readDirective l.cursor
  .ok (l.emit t c)

/-- A node that is one token may turn out to be a key; after it no key may start. -/
def node (l : Layout) (read : Cursor → Except Stop (Token × Cursor)) : Except Stop Layout := do
  let l ← l.orStop l.saveCandidate?
  let (t, c) ← read l.cursor
  .ok { l.emit t c with keyAllowed := false }

/-- The start of a flow collection, which may be a key as a whole. -/
def openFlow? (l : Layout) (t : Token) : Option Layout := do
  let l ← l.saveCandidate?
  some { l.emitChars t 1 with flowLevel := l.flowLevel + 1, keyAllowed := true }

/-- The end of a flow collection. -/
def closeFlow? (l : Layout) (t : Token) : Option Layout := do
  let l ← l.dropCandidate?
  some { l.emitChars t 1 with flowLevel := l.flowLevel - 1, keyAllowed := false }

/-- The comma in a flow collection. -/
def comma? (l : Layout) : Option Layout := do
  let l ← l.dropCandidate?
  some { l.emitChars .flowEntry 1 with keyAllowed := true }

/-- The hyphen before an item. -/
def hyphen? (l : Layout) : Option Layout := do
  if !l.inFlow && !l.keyAllowed then none
  else
    let l := if l.inFlow then l
      else l.openBlock l.cursor.column .blockSequenceStart l.tokens.size
    let l ← l.dropCandidate?
    some { l.emitChars .blockEntry 1 with keyAllowed := true }

/-- The question mark before a key. -/
def explicitKey? (l : Layout) : Option Layout := do
  if !l.inFlow && !l.keyAllowed then none
  else
    let l := if l.inFlow then l
      else l.openBlock l.cursor.column .blockMappingStart l.tokens.size
    let l ← l.dropCandidate?
    some { l.emitChars .key 1 with keyAllowed := !l.inFlow }

/-- The colon before a value: the candidate of the collection turns out to be the key. -/
def value? (l : Layout) : Option Layout :=
  match l.candidate? with
  | some k =>
    let l := (l.removeCandidate).insertAt k.position [.key]
    let l := if l.inFlow then l else l.openBlock k.start.column .blockMappingStart k.position
    some { l.emitChars .value 1 with keyAllowed := false }
  | none => do
    if !l.inFlow && !l.keyAllowed then none
    else
      let l := if l.inFlow then l
        else l.openBlock l.cursor.column .blockMappingStart l.tokens.size
      let l ← l.dropCandidate?
      some { l.emitChars .value 1 with keyAllowed := !l.inFlow }

/-- A block scalar. -/
def blockScalar (l : Layout) (folded : Bool) : Except Stop Layout := do
  let l ← l.orStop l.dropCandidate?
  let (text, c) ← readBlock folded l.indent l.cursor
  .ok { l.emit (.scalar (.ofChars text) false) c with keyAllowed := true }

/-- A scalar in quotes. -/
def quotedScalar (l : Layout) (double : Bool) : Except Stop Layout :=
  l.node fun c => (readQuoted double c).map fun (text, c) => (.scalar text false, c)

/-- A plain scalar; a key may start after it where a line ends. -/
def plainScalar? (l : Layout) : Option Layout := do
  let l ← l.saveCandidate?
  let (text, c, newLine) := readPlain l.inFlow (l.indent + 1) l.cursor
  some { l.emit (.scalar (.ofChars text) true) c with keyAllowed := newLine }

/-- Whether a plain scalar may start with a character that `next` follows. -/
def startsPlain (inFlow : Bool) (c : Char) (next : Option Char) : Bool :=
  if isGap c then false
  else if "-?:,[]\x7b\x7d#&*!|>'\"%@`".toList.contains c then
    !endsWord next && (c = '-' || (!inFlow && (c = '?' || c = ':')))
  else true

/-- The characters whose meaning depends on what comes next. -/
def ambiguous (inFlow : Bool) : String := if inFlow then "-|>%@`\t" else "-?:%@`\t"

/-- The layout where it has been looked at what comes after the next character `c`, as far as the
meaning of `c` depends on it. -/
def lookAhead (l : Layout) (c : Char) : Layout :=
  let atStart := decide (l.cursor.column = 0)
  let cursor :=
    if atStart && (c = '-' || c = '.') then l.cursor.lookForMark
    else if atStart && c = '%' then l.cursor
    else if (ambiguous l.inFlow).toList.contains c then l.cursor.look 1
    else l.cursor
  { l with cursor }

/-- Finds the token at the place, which is `c` and more. -/
def token (l : Layout) (c : Char) (rest : List Char) : Except Stop Layout :=
  let l := l.lookAhead c
  let next := rest.head?
  let apart := endsWord next
  let atSeparator := l.cursor.column = 0 && startsSeparator (c :: rest)
  if c = '%' && l.cursor.column = 0 then l.directive
  else if c = '-' && atSeparator then l.orStop (l.endDocument?.map (·.emitChars .documentStart 3))
  else if c = '.' && atSeparator then l.orStop (l.endDocument?.map (·.emitChars .documentEnd 3))
  else if c = '[' then l.orStop (l.openFlow? .flowSequenceStart)
  else if c = '\x7b' then l.orStop (l.openFlow? .flowMappingStart)
  else if c = ']' then l.orStop (l.closeFlow? .flowSequenceEnd)
  else if c = '\x7d' then l.orStop (l.closeFlow? .flowMappingEnd)
  else if c = ',' then l.orStop l.comma?
  else if c = '-' && apart then l.orStop l.hyphen?
  else if c = '?' && (l.inFlow || apart) then l.orStop l.explicitKey?
  else if c = ':' && (l.inFlow || apart) then l.orStop l.value?
  else if c = '*' then l.node fun c => (readName c).map fun (name, c) => (.reference name, c)
  else if c = '&' then l.node fun c => (readName c).map fun (name, c) => (.anchor name, c)
  else if c = '!' then l.node fun c => (readTag c).map fun (name, c) => (.tag name, c)
  else if c = '|' && !l.inFlow then l.blockScalar false
  else if c = '>' && !l.inFlow then l.blockScalar true
  else if c = '\'' then l.quotedScalar false
  else if c = '"' then l.quotedScalar true
  else if startsPlain l.inFlow c next then l.orStop l.plainScalar?
  else l.cursor.stop

/-! ## Finding all tokens -/

/-- The number of tokens before the first that may turn out to be a key. -/
def settled (l : Layout) : Nat :=
  l.candidates.foldl (fun n k => min n k.2.position) l.tokens.size

/-- Takes note that the first tokens are known at the place. -/
def know (l : Layout) (count : Nat) : Layout :=
  { l with known := l.known ++ Array.replicate (count - l.known.size) l.cursor.seen }

/-- Takes note of the tokens that are known after one has been found. -/
def settle (l : Layout) : Except Stop Layout := do
  let l ← l.orStop l.dropStale?
  .ok (l.know l.settled)

/-- The layout before the next token. -/
def approach (l : Layout) : Except Stop Layout := do
  let l := l.skipGap
  let l ← l.orStop l.dropStale?
  .ok (l.closeBlocks l.cursor.column)

/-- The tokens that are known where no more can be found. -/
def toScan (l : Layout) (stop : Stop) : Scan := ⟨l.tokens.toList.zip l.known.toList, stop⟩

/-- The tokens where the text ends, all of which are known. -/
def finish (l : Layout) : Scan :=
  let l := match l.endDocument? with
    | some l =>
      let l := l.emit .textEnd l.cursor
      l.know l.tokens.size
    | none => l
  l.toScan ⟨l.cursor.seen, .malformed⟩

/-- All tokens, from the place on. The first argument bounds their number. -/
def run : Nat → Layout → Scan
  | 0, l => l.finish
  | bound + 1, l =>
    match l.approach with
    | .error stop => l.toScan stop
    | .ok l' =>
      match l'.cursor.rest with
      | [] => l'.finish
      | c :: rest =>
        match l'.token c rest >>= settle with
        | .error stop => l.toScan stop
        | .ok later => run bound later

end Layout

/-- The tokens of a text, each of which has characters of its own. -/
def scan (text : List Char) : Scan := (Layout.start text).run (text.length + 1)

end SymbolText.Yaml
