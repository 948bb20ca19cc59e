import SymbolText.Error
import SymbolText.Text.Blank
import SymbolText.Text.Line
import SymbolText.Text.Quoted

/-!
# Catalog files

A catalog file holds one `key = "text"` pair per line, beside blank lines, comments and section
headers, which are skipped. Keys and texts are trimmed; a text is quoted, or left out
altogether.

Models of `decode_catalog` and `parse_catalog`.

* `CatalogFile.decode`: the text of a file's octets.
* `CatalogFile.Line`: what a line is.
* `CatalogFile.entryOf`: the entry of a line.
* `CatalogFile.entries`: the entries of a file in order, repeated keys included.
-/

namespace SymbolText.CatalogFile

/-- The name of a catalog that comes from no file. -/
def unnamed : String := "<memory>"

/-! ## Octets -/

/-- The byte-order marks that may precede a catalog (`_BOMS`). -/
def byteOrderMarks : List (List UInt8) := [[0xef, 0xbb, 0xbf], [0xff, 0xfe], [0xfe, 0xff]]

/-- The octets after the byte-order mark, if they start with one. -/
def stripMark (octets : List UInt8) : List UInt8 :=
  match byteOrderMarks.find? fun mark => mark.isPrefixOf octets with
  | some mark => octets.drop mark.length
  | none => octets

/-- A zero octet among that many first ones shows that a file is not in UTF-8. -/
def inspectedOctets : Nat := 6

/-- The text of a file (`decode_catalog`). -/
def decode (path : String) (octets : List UInt8) : Except Error (List Char) :=
  let body := stripMark octets
  if (body.take inspectedOctets).contains 0 then .error (.catalogEncoding path none)
  else match Text.Utf8.decode body with
    | .ok text => .ok text
    | .error failure => .error (.catalogEncoding path (some failure))

/-! ## Lines -/

/-- What a line of a catalog is. -/
inductive Line
  /-- A blank line, a comment, a section header or a line without an equals sign. -/
  | skipped
  /-- A key and what is written as its text. -/
  | pair (key written : List Char)
  deriving DecidableEq, Repr

/-- Whether a trimmed line is empty, a comment or a section header. -/
def isRemark (line : List Char) : Bool :=
  match line with
  | [] => true
  | first :: _ => first = '#' || (first = '[' && line.getLast? = some ']')

/-- What a line is. -/
def Line.ofText (text : List Char) : Line :=
  let line := Text.trim Text.isLineBlank text
  if isRemark line then .skipped
  else match Text.cut? '=' line with
    | none => .skipped
    | some (key, written) =>
      .pair (Text.trim Text.isLineBlank key) (Text.trim Text.isLineBlank written)

/-- The text that is written after a key. -/
def readText (path : String) (key written : List Char) : Except Error (List Char) :=
  match written with
  | [] => .ok []
  | first :: _ =>
    if first = '"' then
      match Text.Quoted.scan? written with
      | some text => .ok text
      | none => .error (.unknownEscape path (String.ofList key))
    else .error (.unquotedValue path (String.ofList key))

/-- The entry of a line, if it has one. -/
def entryOf (path : String) : Line → Except Error (Option (String × String))
  | .skipped => .ok none
  | .pair key written =>
    match readText path key written with
    | .ok text => .ok (some (String.ofList key, String.ofList text))
    | .error e => .error e

/-- The entries of lines in order, up to the first faulty one. -/
def entriesOf (path : String) : List (List Char) → Except Error (List (String × String))
  | [] => .ok []
  | line :: more => do
    let first ← entryOf path (Line.ofText line)
    let rest ← entriesOf path more
    .ok (first.toList ++ rest)

/-- The entries of a file in order (`parse_catalog`). -/
def entries (path : String) (octets : List UInt8) : Except Error (List (String × String)) := do
  let text ← decode path octets
  entriesOf path (Text.lines text)

end SymbolText.CatalogFile
