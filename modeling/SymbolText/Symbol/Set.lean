import SymbolText.Symbol.Declared

/-!
# Symbol sets

The symbols of one type in the order of their declaration. Aliases, which share a value, and
repeated names are kept.

The model of `SymbolSet`.

* `SymbolSet`: a non-empty list of symbols of one type.
* `SymbolSet.ofSymbols`, `ofDeclarations`: sets of given symbols and declarations.
* `SymbolSet.isSigned`: the set compares its values as signed if any symbol is signed.
* `SymbolSet.names`, `find?`: the declared names, and the first symbol of a name.
-/

namespace SymbolText

/-- The symbols of a type, in the order of their declaration (`SymbolSet`). -/
structure SymbolSet where
  typeName : String
  symbols : List Symbol
  /-- There is a symbol. -/
  ne_nil : symbols ≠ []
  /-- All symbols are of the type. -/
  owned : ∀ s ∈ symbols, s.typeName = typeName

namespace SymbolSet

/-- The set of symbols of a type (`SymbolSet.__init__`); the first symbol of another type is an
error. -/
def ofSymbols (typeName : String) (symbols : List Symbol) : Except Error SymbolSet :=
  match symbols with
  | [] => .error (.noValues (.ofString typeName))
  | first :: rest =>
    match h : (first :: rest).find? fun s => !decide (s.typeName = typeName) with
    | some s => .error (.foreignSymbol (.text s.name) (.ofString s.typeName) (.ofString typeName))
    | none =>
      .ok
        { typeName
          symbols := first :: rest
          ne_nil := List.cons_ne_nil first rest
          owned := fun s hs => by simpa using List.find?_eq_none.1 h s hs }

/-- The set of the symbols that declarations of a type declare, whose names have to be texts
(`SymbolSet.from_declarations`). -/
def ofDeclarations (typeName : String) (declarations : List Declaration) :
    Except Error SymbolSet := do
  let declared ← DeclaredSet.ofDeclarations (.ofString typeName) declarations
  ofSymbols typeName (← declared.members.mapM (DeclaredSymbol.toSymbol typeName))

/-- Whether any of some symbols is signed. -/
def anySigned (symbols : List Symbol) : Bool := symbols.any (·.signed)

/-- Whether the set compares its values as signed integers (`SymbolSet.signed`). -/
def isSigned (set : SymbolSet) : Bool := anySigned set.symbols

/-- The declared names, each once, in the order of their first declaration (`SymbolSet.names`). -/
def names (set : SymbolSet) : List Text := (set.symbols.map (·.key)).eraseDups

/-- The first symbol declared under a name (`SymbolSet.get`). -/
def find? (set : SymbolSet) (name : Text) : Option Symbol :=
  set.symbols.find? fun s => decide (s.key = name)

/-- The first symbol under a value as a name, which has to be a value that can be a key
(`SymbolSet.get`). -/
def lookup? (set : SymbolSet) (name : Value) : Except Error (Option Symbol) := do
  name.checkKey
  .ok (name.text?.bind set.find?)

/-- The first symbol declared under a name, which has to be there (`SymbolSet.__getitem__`). -/
def get (set : SymbolSet) (name : String) : Except Error Symbol :=
  match set.find? (.ofString name) with
  | some s => .ok s
  | none => .error (.unknownKey name)

/-- Whether a symbol or a name belongs to the set (`SymbolSet.__contains__`); no other value
does. -/
def contains (set : SymbolSet) : Value → Except Error Bool
  | .symbol s => .ok (set.symbols.contains s)
  | name => (set.lookup? name).map Option.isSome

/-- The written form of a set (`SymbolSet.__repr__`). -/
def render (set : SymbolSet) : String :=
  s!"SymbolSet({Text.Literal.ofString set.typeName}, {set.symbols.length} symbols)"

end SymbolSet

end SymbolText
