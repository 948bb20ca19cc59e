import SymbolText.Symbol.Declaration
import SymbolText.Value.Key
import SymbolText.Value.Order

/-!
# Sets of declared symbols

What some declarations of one type declare, in their order. The names may be any values that can
be keys; a set whose names are texts is a `SymbolSet`.

The model of `SymbolSet.from_declarations`, before the names are taken for texts.

* `DeclaredSet`: a non-empty list of declared symbols of one type.
* `DeclaredSet.ofDeclarations`: the set of given declarations.
* `DeclaredSet.names`, `find?`, `contains`: the names, the first symbol of a name, and what belongs
  to the set.
-/

namespace SymbolText

/-- Declared symbols of a type, in the order of their declaration (`SymbolSet`). -/
structure DeclaredSet where
  typeName : Value
  members : List DeclaredSymbol
  /-- There is a symbol. -/
  ne_nil : members ≠ []

namespace DeclaredSet

/-- Refuses the first symbol of another type than `typeName` (`SymbolSet.__init__`). -/
def checkOwners (typeName : Value) : List DeclaredSymbol → Except Error Unit
  | [] => .ok ()
  | d :: rest =>
    if d.typeName.same typeName then checkOwners typeName rest
    else if d.name.show?.isNone || d.typeName.show?.isNone || typeName.show?.isNone then
      .error .integerTooLong
    else .error (.foreignSymbol d.name d.typeName typeName)

/-- The set of the symbols that declarations of a type declare (`SymbolSet.from_declarations`). -/
def ofDeclarations (typeName : Value) (declarations : List Declaration) :
    Except Error DeclaredSet := do
  match ← declarations.mapM Declaration.check with
  | [] =>
    let _ ← orTooLong typeName.show?
    .error (.noValues typeName)
  | first :: rest =>
    checkOwners typeName (first :: rest)
    (first :: rest).forM fun d => d.name.checkKey
    .ok ⟨typeName, first :: rest, List.cons_ne_nil first rest⟩

/-- Whether the set compares its values as signed integers (`SymbolSet.signed`). -/
def isSigned (set : DeclaredSet) : Bool := set.members.any (·.signed)

/-- Adds a name that is not among some names yet. -/
def addName (names : List Value) (name : Value) : List Value :=
  if names.any (·.same name) then names else names ++ [name]

/-- The names, each once, in the order of their first declaration (`SymbolSet.names`). -/
def names (set : DeclaredSet) : List Value := (set.members.map (·.name)).foldl addName []

/-- The first symbol of a name, which has to be a value that can be a key (`SymbolSet.get`). -/
def find? (set : DeclaredSet) (name : Value) : Except Error (Option DeclaredSymbol) := do
  name.checkKey
  .ok (set.members.find? fun d => d.name.same name)

/-- Whether a symbol or a name belongs to the set (`SymbolSet.__contains__`). -/
def contains (set : DeclaredSet) : Value → Except Error Bool
  | .symbol s => .ok (set.members.any (·.isSymbol s))
  | name => (set.find? name).map Option.isSome

/-- The written form of a set (`SymbolSet.__repr__`). -/
def render (set : DeclaredSet) : Except Error String := do
  let typeName ← orTooLong set.typeName.inspect?
  .ok s!"SymbolSet({String.ofList typeName}, {set.members.length} symbols)"

end DeclaredSet

end SymbolText
