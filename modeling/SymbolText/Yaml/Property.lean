import SymbolText.Yaml.Scalar
import SymbolText.Yaml.Token
import SymbolText.Text.Utf8

/-!
# Written names, tags and directives

What may be said about a node beside its content, and about a document before its start.

* `readName`: the name of an anchor or a reference.
* `readTag`: the name of a tag.
* `readDirective`: a directive.

Each gives the place after what it reads, and stops at a fault.
-/

namespace SymbolText.Yaml

/-! ## Names -/

/-- A character that may follow a name, beside a gap. -/
def followsName (c : Char) : Bool := "?:,]\x7d%@`".toList.contains c

/-- The name of an anchor or a reference, from its indicator on. -/
def readName (c : Cursor) : Except Stop (String × Cursor) :=
  let (name, c) := c.next.span isWordChar
  if name = [] ∨ !(endsWord c.peek || c.peek.any followsName) then c.stop
  else .ok (String.ofList name, c)

/-! ## Tags -/

/-- A character of the written form of a tag, beside a percent sign. -/
def isTagChar (c : Char) : Bool := c.isAlphanum || "-;/?:@&=+$,_.!~*'()[]".toList.contains c

/-- The octets of escapes at a place, after some that are `reversed`. The first argument bounds
their number. -/
def readOctets : Nat → List UInt8 → Cursor → Except Stop (List UInt8 × Cursor)
  | 0, _, c => c.stop
  | bound + 1, reversed, c =>
    if c.peek = some '%' then do
      let (octet, c) ← readHex 2 c.next
      readOctets bound (UInt8.ofNat octet :: reversed) c
    else .ok (reversed.reverse, c)

/-- The characters of the escapes at a place, whose octets are UTF-8. -/
def readEscapedChars (c : Cursor) : Except Stop (List Char × Cursor) := do
  let (octets, c) ← readOctets (c.rest.length + 1) [] c
  match Text.Utf8.decode octets with
  | .ok chars => .ok (chars, c)
  | .error _ => c.stop

/-- The text of a tag after one that is `reversed`. The first argument bounds the number of its
characters and escapes. -/
def readTagTextFrom : Nat → List Char → Cursor → Except Stop (List Char × Cursor)
  | 0, _, c => c.stop
  | bound + 1, reversed, c =>
    match c.peek with
    | some '%' => do
      let (chars, c) ← readEscapedChars c
      readTagTextFrom bound (chars.reverse ++ reversed) c
    | some ch =>
      if isTagChar ch then readTagTextFrom bound (ch :: reversed) c.next
      else .ok (reversed.reverse, c)
    | none => .ok (reversed.reverse, c)

/-- The suffix or prefix of a tag. -/
def readTagText (c : Cursor) : Except Stop (String × Cursor) := do
  let (text, c) ← readTagTextFrom (c.rest.length + 1) [] c
  if text = [] then c.stop else .ok (String.ofList text, c)

/-- A handle of tags: an exclamation mark, or a name between two. -/
def readHandle (c : Cursor) : Except Stop (String × Cursor) :=
  if c.peek ≠ some '!' then c.stop
  else
    let (name, after) := c.next.span isWordChar
    if after.peek = some '!' then .ok (String.ofList ('!' :: (name ++ ['!'])), after.next)
    else if name = [] ∧ after.peek = some ' ' then .ok ("!", after)
    else after.stop

/-- Whether a character goes before the second exclamation mark of a tag. -/
def isBeforeHandleEnd (c : Char) : Bool := !isSpaceOrBreak c && c != '!'

/-- The name of a tag, from its exclamation mark on. -/
def readTag (c : Cursor) : Except Stop (TagName × Cursor) := do
  let word := c.next.rest
  let (name, c) ←
    match word.head? with
    | some '<' => do
      let (suffix, c) ← readTagText (c.skip 2)
      if c.peek = some '>' then .ok (⟨none, suffix⟩, c.next) else c.stop
    | first =>
      if endsWord first then .ok (⟨none, "!"⟩, c.next)
      else
        let ahead := (word.takeWhile isBeforeHandleEnd).length + 1
        let c := c.look ahead
        if (c.rest.drop ahead).head? = some '!' then do
          let (handle, c) ← readHandle c
          let (suffix, c) ← readTagText c
          .ok (⟨some handle, suffix⟩, c)
        else do
          let (suffix, c) ← readTagText c.next
          .ok (⟨some "!", suffix⟩, c)
  if c.atSpaceOrEnd then .ok (name, c) else c.stop

/-! ## Directives -/

/-- A number of a version, whose numeral must not be too long. -/
def readNumber (c : Cursor) : Except Stop (Nat × Cursor) :=
  let (digits, c) := c.span Char.isDigit
  if digits = [] then c.stop
  else if Numeral.maxDigits < digits.length then
    c.fail (.unreadable (.numeralTooLong digits.length))
  else .ok (Numeral.ofDigits 10 0 digits, c)

/-- The version that a document is for, from the name of the directive on. -/
def readVersion (c : Cursor) : Except Stop (Token × Cursor) := do
  let (major, c) ← readNumber c.skipSpaces
  if c.peek ≠ some '.' then c.stop
  else
    let (_, c) ← readNumber c.next
    if c.atSpaceOrEnd then .ok (.version major, c) else c.stop

/-- A handle and the prefix that it stands for, from the name of the directive on. -/
def readTagHandle (c : Cursor) : Except Stop (Token × Cursor) := do
  let (handle, c) ← readHandle c.skipSpaces
  if c.peek ≠ some ' ' then c.stop
  else
    let (stem, c) ← readTagText c.skipSpaces
    if c.atSpaceOrEnd then .ok (.tagHandle handle stem, c) else c.stop

/-- A directive, from its indicator on. -/
def readDirective (c : Cursor) : Except Stop (Token × Cursor) := do
  let (name, c) := c.next.span isWordChar
  if name = [] ∨ !c.atSpaceOrEnd then c.stop
  else
    let (token, c) ←
      if name = "YAML".toList then readVersion c
      else if name = "TAG".toList then readTagHandle c
      else .ok (.directive, (c.span (!isBreak ·)).2)
    let c ← c.skipRestOfLine
    .ok (token, c)

end SymbolText.Yaml
