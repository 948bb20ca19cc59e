import SymbolText.Value.Integer

/-!
# Declarations

A declaration names a value of a type, with fields that have not been checked yet. Checking it reads
the value as an integer within the range of its signedness; the names may be any values. A symbol
has a text for its name.

Models of `SymbolDeclaration` and of the two ways to make a `Symbol`.

* `Symbol.make`: the symbol of a name and an integer.
* `Declaration`: declarations as a source gives them.
* `DeclaredSymbol`, `Declaration.check`: what is declared, with names of any type.
* `DeclaredSymbol.toSymbol`: the symbol, if the name is a text.
-/

namespace SymbolText

/-- Why a value is out of the range of its signedness (`Symbol.__post_init__`). -/
def rangeError (typeName name : Value) (value : Int) (signed : Bool) : Error :=
  if Numeral.isTooLong value || typeName.show?.isNone || name.show?.isNone then .integerTooLong
  else .valueOutOfRange typeName name value signed

/-- The symbol of a name and an integer (`Symbol.__post_init__`). The key is the name and the text
is the decimal numeral unless they are given. -/
def Symbol.make (typeName : String) (name : Text) (value : Int) (signed : Bool)
    (key : Option Text) (text : Option String) : Except Error Symbol :=
  if fits : Word64.Fits signed value then
    .ok
      { typeName, name, value, signed, fits
        key := key.getD name
        text := text.getD (String.ofList (Numeral.decimal value)) }
  else .error (rangeError (.ofString typeName) (.text name) value signed)

/-- A declaration as its source gives it (`SymbolDeclaration`). -/
structure Declaration where
  typeName : Value
  name : Value
  value : Value
  /-- The values are signed integers if this counts as true. -/
  signed : Value

/-- A declaration whose value has been checked. -/
structure DeclaredSymbol where
  typeName : Value
  name : Value
  value : Int
  signed : Bool
  /-- The value is in range. -/
  fits : Word64.Fits signed value

/-- What a declaration declares (`Symbol.from_declaration`). -/
def Declaration.check (d : Declaration) : Except Error DeclaredSymbol := do
  let value ← d.value.toInteger
  let signed := d.signed.isTruthy
  if fits : Word64.Fits signed value then
    .ok { typeName := d.typeName, name := d.name, value, signed, fits }
  else .error (rangeError d.typeName d.name value signed)

namespace DeclaredSymbol

/-- The written form of the value. -/
def text (d : DeclaredSymbol) : String := String.ofList (Numeral.decimal d.value)

/-- The text that a value in place of a name is. Runs are on names that are texts. -/
def nameText (v : Value) : Except Error Text :=
  match v.text? with
  | some s => .ok s
  | none => .error (.nameWithoutLength v.typeName)

/-- The symbol of a type that is declared, whose name has to be a text. -/
def toSymbol (typeName : String) (d : DeclaredSymbol) : Except Error Symbol := do
  let name ← nameText d.name
  .ok
    { typeName, name
      value := d.value
      signed := d.signed
      key := name
      text := d.text
      fits := d.fits }

/-- Whether a symbol is the one that is declared. -/
def isSymbol (d : DeclaredSymbol) (s : Symbol) : Bool :=
  d.typeName.same (.ofString s.typeName) && d.name.same (.text s.name) && d.value = s.value &&
    d.signed = s.signed && s.key = s.name && s.text = d.text

end DeclaredSymbol

end SymbolText
