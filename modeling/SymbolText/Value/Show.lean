import SymbolText.Number.FloatText
import SymbolText.Text.Literal
import SymbolText.Value.Basic

/-!
# Texts of values

Each value has two texts: the literal, which tells its type and parts, and the plain one, which
for a text is the text itself and for a symbol its name. Neither exists for a value with an
integer in it whose numeral is longer than numerals may be.

* `Value.inspect?`: the literal.
* `Value.show?`: the plain text.
* `Value.inspectAscii?`: the literal with everything above ASCII escaped.
* `inspectTuple?`: the literal of a tuple of values.
-/

namespace SymbolText

/-- The literal of a string. -/
def literalOf (s : String) : List Char := Text.Literal.ofText (.ofString s)

/-- The literal of a truth value. -/
def boolText (b : Bool) : List Char := if b then "True".toList else "False".toList

/-- The literal of a symbol: all of its fields by name. -/
def Symbol.inspect (s : Symbol) : List Char :=
  "Symbol(type_name=".toList ++ literalOf s.typeName ++ ", name=".toList ++
    Text.Literal.ofText s.name ++ ", value=".toList ++ Numeral.decimal s.value ++
    ", signed=".toList ++ boolText s.signed ++ ", original_name=".toList ++
    Text.Literal.ofText s.key ++ ", text=".toList ++ literalOf s.text ++ [')']

/-- Items between brackets, with a comma and a space between each two. -/
def enclose (opening : Char) (items : List (List Char)) (closing : Char) : List Char :=
  opening :: (Text.joinWith [',', ' '] items ++ [closing])

/-- The literal of a tuple; a single item is followed by a comma. -/
def encloseTuple : List (List Char) → List Char
  | [item] => '(' :: (item ++ [',', ')'])
  | items => enclose '(' items ')'

namespace Value

mutual
/-- The literal of a value (`repr`). -/
def inspect? : Value → Option (List Char)
  | null => some "None".toList
  | bool b => some (boolText b)
  | int n => Numeral.decimal? n
  | float x => some x.shortText
  | text s => some (Text.Literal.ofText s)
  | bytes octets => some (Text.Literal.ofOctets octets)
  | list items => (inspectItems? items).map (enclose '[' · ']')
  | tuple items => (inspectItems? items).map encloseTuple
  | dict entries => (inspectEntries? entries).map (enclose '\x7b' · '\x7d')
  | symbol s => some s.inspect
  | reference typeName value =>
    (Numeral.decimal? value).map fun v =>
      "SymbolRef(type_name=".toList ++ literalOf typeName ++ ", value=".toList ++ v ++ [')']
  | literal v => (inspect? v).map fun v => "Literal(value=".toList ++ v ++ [')']
/-- The literals of the items of a sequence. -/
def inspectItems? : List Value → Option (List (List Char))
  | [] => some []
  | v :: rest =>
    match inspect? v, inspectItems? rest with
    | some first, some more => some (first :: more)
    | _, _ => none
/-- The literals of the entries of a dictionary, keys and values with a colon between. -/
def inspectEntries? : List (Value × Value) → Option (List (List Char))
  | [] => some []
  | (k, v) :: rest =>
    match inspect? k, inspect? v, inspectEntries? rest with
    | some key, some value, some more => some ((key ++ ':' :: ' ' :: value) :: more)
    | _, _, _ => none
end

/-- The plain text of a value (`str`). -/
def show? : Value → Option Text
  | text s => some s
  | symbol s => some s.name
  | v => v.inspect?.map Text.ofChars

/-- The literal of a value in ASCII. -/
def inspectAscii? (v : Value) : Option (List Char) := v.inspect?.map Text.Literal.toAscii

end Value

/-- The literal of a tuple of values. -/
def inspectTuple? (items : List Value) : Option (List Char) :=
  (Value.inspectItems? items).map encloseTuple

end SymbolText
