/-!
# Names in enumerations

Most names of an enumeration are those of members. Names in underscores have meanings of their own:
some are attributes, some say how the members are taken, and the others are reserved.

* `isPrivate`, `isSunder`, `isDunder`: the forms of names in underscores.
* `allowedNames`, `impossibleNames`: names between single underscores that may be used, and names
  that members cannot have.
-/

namespace SymbolText.Enumeration

/-! ## Forms -/

/-- Whether a name is private to an enumeration: the enumeration's name between an underscore and
two of them is in front of it, and it does not end with two. -/
def isPrivate (owner name : String) : Bool :=
  let mark := '_' :: (owner.toList ++ ['_', '_'])
  let chars := name.toList
  let closed := ['_', '_'].isSuffixOf chars
  mark.isPrefixOf chars && Nat.blt mark.length chars.length && !closed

/-- Whether a name is between single underscores. -/
def isSunder (name : String) : Bool :=
  match name.toList, name.toList.reverse with
  | '_' :: first :: _ :: _, '_' :: last :: _ => first != '_' && last != '_'
  | _, _ => false

/-- Whether a name is between double underscores. -/
def isDunder (name : String) : Bool :=
  match name.toList, name.toList.reverse with
  | '_' :: '_' :: first :: _ :: _ :: _, '_' :: '_' :: last :: _ => first != '_' && last != '_'
  | _, _ => false

/-! ## Names with a meaning -/

/-- The name of the names that are no members. -/
def ignoreName : String := "_ignore_"

/-- The name of the announced order of the members. -/
def orderName : String := "_order_"

/-- An older spelling of it. -/
def olderOrderName : String := "__order__"

/-- The name of the signedness. -/
def signedName : String := "__signed__"

/-- The name of what makes members. -/
def makingName : String := "__new__"

/-- The name of what is done with members that have been made. -/
def startingName : String := "__init__"

/-- The name of what looks at members. -/
def lookingName : String := "__getattribute__"

/-- The name of what is asked for what members do not have. -/
def searchingName : String := "__getattr__"

/-- The name of what changes members. -/
def changingName : String := "__setattr__"

/-- The name of the qualified name. -/
def qualifiedName : String := "__qualname__"

/-- The names between single underscores that may be used. -/
def allowedNames : List String :=
  [orderName, "_generate_next_value_", "_numeric_repr_", "_missing_", ignoreName,
    "_iter_member_", "_iter_member_by_value_", "_iter_member_by_def_"]

/-- Names that members cannot have. -/
def impossibleNames : List String := ["", "mro"]

/-- The name of the names of fields. -/
def fieldsName : String := "__slots__"

/-- The name of the place in which operations find their enumeration. -/
def placeName : String := "__classcell__"

end SymbolText.Enumeration
