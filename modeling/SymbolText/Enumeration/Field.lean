import SymbolText.Enumeration.Scope

/-!
# Fields of members

An enumeration may announce fields, which members have beside what the enumeration has, and which
have no value at first. The name of a field is a word that nothing of the enumeration has for a
name; members that are integers have no fields.

* `isWord`: the form of the name of a field.
* `fieldIn`: the field of an enumeration that has a name.
* `Scope.fields`: the fields that an enumeration announces.
-/

namespace SymbolText.Enumeration

/-! ## Names -/

/-- A character at the front of words: a letter, an underscore, or any character beyond ASCII. -/
def startsWord (c : Char) : Bool := c.isAlpha || c = '_' || Nat.blt 0x7f c.toNat

/-- A character of words. -/
def isWordChar (c : Char) : Bool := startsWord c || c.isDigit

/-- Whether characters are a word. -/
def isWord : List Char → Bool
  | [] => false
  | c :: rest => startsWord c && rest.all isWordChar

/-- The name of all attributes of a member, which is no field of its own. -/
def attributesName : String := "__dict__"

/-- The name of what refers to a member, which is no field of its own. -/
def referencesName : String := "__weakref__"

/-- The name of the field that an item of announced names is. -/
def fieldName (item : Value) : Except Error String :=
  match item with
  | .text s =>
    match s.string? with
    | some name =>
      if !isWord name.toList then .error .fieldNotWord
      else if name = attributesName then .error .fieldOfAttributes
      else if name = referencesName then .error .fieldOfReferences
      else .ok name
    | none => .error .fieldNotWord
  | v => .error (.fieldNotText v.typeName)

/-- The items of announced names; a text is one name. -/
def announcedItems : Value → Except Error (List Value)
  | .text s => .ok [.text s]
  | v => itemsOf v

/-- The field of an enumeration that has a name. If there are two underscores in front of it but not
at its end, the field is private: the name of the enumeration without the underscores in front of it
comes first, after an underscore. -/
def fieldIn (owner name : String) : String :=
  let chars := name.toList
  let stem := owner.toList.dropWhile (· = '_')
  let opened := ['_', '_'].isPrefixOf chars
  let closed := ['_', '_'].isSuffixOf chars
  if opened && !closed && !stem.isEmpty then String.ofList ('_' :: (stem ++ chars)) else name

/-! ## Announced fields -/

/-- Names that are taken in every enumeration. -/
def takenNames : List String :=
  ["_generate_next_value_", "_new_member_", "_use_args_", "_member_names_", "_member_map_",
    "_value2member_map_", "_unhashable_values_", "_member_type_", "_value_repr_", "_boundary_",
    "_flag_mask_", "_singles_mask_", "_all_bits_", "_inverted_"]

/-- Names that may be those of fields too. -/
def sharedNames : List String := [orderName, qualifiedName, placeName]

/-- Whether something of an enumeration has a name that no field may have then. -/
def Scope.isTaken (s : Scope) (name : String) : Bool :=
  takenNames.contains name || (!sharedNames.contains name && (s.value? name).isSome)

/-- The fields that an enumeration announces, whose members may be integers. -/
def Scope.fields (s : Scope) (integral : Bool) : Except Error (List String) :=
  match s.value? fieldsName with
  | none => .ok []
  | some v => do
    let items ← announcedItems v
    if integral && !items.isEmpty then throw .fieldsOfIntegers
    let fields := (← items.mapM fieldName).map (fieldIn s.owner)
    match fields.find? s.isTaken with
    | some name => .error (.fieldTaken (Text.Literal.ofString name))
    | none => .ok fields

end SymbolText.Enumeration
