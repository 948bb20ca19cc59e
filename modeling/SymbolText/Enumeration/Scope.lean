import SymbolText.Dict
import SymbolText.Enumeration.Name
import SymbolText.Symbol.Declaration
import SymbolText.Value.Key

/-!
# Names with values

The names of an enumeration are entered one after the other. A name that is not in underscores is
that of a member and is entered once, unless it is to be ignored.

* `listedNames`: the names that a value lists.
* `Scope`: the names so far, with their values.
* `Scope.enter`: adds a name.
* `Scope.value?`: the value of a name.
-/

namespace SymbolText.Enumeration

/-! ## Lists of names -/

/-- A character between the names of a list. -/
def separatesNames (c : Char) : Bool := Text.isBlank c || c = ','

/-- The words of a text between blanks and commas, after `word`, which is not complete. -/
def wordsFrom (word : Text) : Text → List Text
  | [] => if word = [] then [] else [word]
  | p :: rest =>
    if p.isIn separatesNames then
      if word = [] then wordsFrom [] rest else word :: wordsFrom [] rest
    else wordsFrom (word ++ [p]) rest

/-- The items of a value that is not a text. -/
def itemsOf : Value → Except Error (List Value)
  | .list items | .tuple items => .ok items
  | .dict entries => .ok (entries.map (·.1))
  | .bytes octets => .ok (octets.map fun b => .int b.toNat)
  | v => .error (.notIterable v.typeName)

/-- The names that a value lists: the words of a text, or the items of a sequence. -/
def listedNames : Value → Except Error (List Value)
  | .text s => .ok ((wordsFrom [] s).map Value.text)
  | v => itemsOf v

/-- Whether a name is among listed ones. -/
def isListed (names : List Value) (name : String) : Bool := names.any (·.same (.ofString name))

/-! ## Entering names -/

/-- The names of an enumeration so far. -/
structure Scope where
  /-- The name of the enumeration. -/
  owner : String
  /-- The values of all names. -/
  values : Dict String Value
  /-- The names of the members. -/
  members : List String
  /-- The names that are to be ignored. -/
  ignored : List Value

namespace Scope

/-- No names. -/
def empty (owner : String) : Scope := ⟨owner, .empty, [], []⟩

/-- Sets the value of a name. -/
def set (s : Scope) (name : String) (v : Value) : Scope :=
  { s with values := s.values.insert name v }

/-- Says which names are to be ignored; members cannot be ignored any more. -/
def ignore (s : Scope) (v : Value) : Except Error Scope := do
  let names ← listedNames v
  names.forM Value.checkKey
  match s.members.filter (isListed names) with
  | [] => .ok { s with ignored := names }
  | already =>
    .error (.ignoredMembers (String.ofList (enclose '\x7b' (already.map literalOf) '\x7d')))

/-- The failure of a name that has a value already. -/
def repeated (s : Scope) (name : String) : Except Error Scope := do
  let value ← orTooLong ((s.values.get? name).getD .null).inspect?
  .error (.repeatedMember (Text.Literal.ofString name) (String.ofList value))

/-- Enters a name with its value. -/
def enter (s : Scope) (entry : String × Value) : Except Error Scope :=
  let (name, v) := entry
  if isPrivate s.owner name then .ok (s.set name v)
  else if isSunder name then
    if !allowedNames.contains name then .error (.reservedName name)
    else if name = ignoreName then s.ignore v
    else .ok (s.set name v)
  else if isDunder name then .ok (s.set (if name = olderOrderName then orderName else name) v)
  else if s.members.contains name then s.repeated name
  else if isListed s.ignored name then .ok (s.set name v)
  else if s.values.contains name then s.repeated name
  else .ok { s.set name v with members := s.members ++ [name] }

/-- The value of a name that is not to be ignored. -/
def value? (s : Scope) (name : String) : Option Value :=
  if isListed s.ignored name then none else s.values.get? name

end Scope

end SymbolText.Enumeration
