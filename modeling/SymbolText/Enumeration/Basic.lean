import SymbolText.Enumeration.Field

/-!
# Enumerations

An enumeration is written as names with values, of which most are members.

* `Enumeration`: an enumeration with its members.
* `Enumeration.Draft`: an enumeration as it is written.
* `Draft.build`: the enumeration that is written.
* `Enumeration.declarations`: the declarations of the members, which have to be integers.
-/

namespace SymbolText

/-- An enumeration: members with their values, in order. -/
structure Enumeration where
  name : String
  members : List (String × Value)
  /-- The values are signed integers. -/
  signed : Bool
  /-- What members have beside their names and values. -/
  fields : List String

namespace Enumeration

/-- An enumeration as it is written. -/
structure Draft where
  name : String
  /-- Names with their values, in order. -/
  entries : List (String × Value)
  /-- The values are signed integers if this counts as true. -/
  signed : Option Value
  /-- The members are integers, so that their values are read as such. -/
  integral : Bool

/-! ## Refusals -/

namespace Scope

/-- Refuses a name in place of an operation: no value is one, and a field has none. -/
def refuseOperation (s : Scope) (fields : List String) (name : String) : Except Error Unit :=
  match s.value? name with
  | some v => .error (.notCallable v.typeName)
  | none => if fields.contains name then .error (.fieldUnset s.owner name) else .ok ()

/-- Refuses a qualified name that is not a text. -/
def checkQualifiedName (s : Scope) : Except Error Unit :=
  match s.value? qualifiedName with
  | some (.text _) | none => .ok ()
  | some v => .error (.qualifiedName v.typeName)

/-- Refuses a value as the place in which operations find their enumeration. -/
def checkPlace (s : Scope) : Except Error Unit :=
  match s.value? placeName with
  | some v => .error (.notPlace v.typeName)
  | none => .ok ()

end Scope

/-! ## Members -/

/-- The parts that the value of an integer is made of. -/
def partsOf : Value → List Value
  | .tuple items => items
  | v => [v]

/-- The value that a member holds. -/
def heldValue (integral : Bool) (v : Value) : Except Error Value :=
  if integral then (integerOfParts (partsOf v)).map .int else .ok v

/-- The value of a member that is made, where no operation of the enumeration's own and no field in
place of one may be in the way. -/
def makeMember (s : Scope) (fields : List String) (integral : Bool) (v : Value) :
    Except Error Value := do
  if !(s.value? makingName).all (·.same .null) then s.refuseOperation [] makingName
  let held ← heldValue integral v
  s.refuseOperation fields lookingName
  s.refuseOperation [] searchingName
  if integral && (s.value? changingName).isSome then throw .valueNotSet
  s.refuseOperation fields changingName
  s.refuseOperation fields startingName
  .ok held

/-- Whether a member of a value is an alias of an earlier one: the values are equal. An empty tuple
makes no alias. -/
def isAliasOf (v earlier : Value) : Bool :=
  match v with
  | .tuple [] => false
  | v => earlier.same v

/-- The first value that equals a value: an alias has the value of the member that it is an alias
of. -/
def canonical (members : List (String × Value)) (v : Value) : Value :=
  match members.find? fun m => isAliasOf v m.2 with
  | some (_, first) => first
  | none => v

/-- The names of the members that are no aliases, after some others. -/
def canonicalNames (before : List (String × Value)) : List (String × Value) → List String
  | [] => []
  | m :: rest =>
    let more := canonicalNames (before ++ [m]) rest
    if before.any fun b => isAliasOf m.2 b.2 then more else m.1 :: more

/-- Compares the order that is announced with that of the members; aliases do not count. -/
def checkOrder (members : List (String × Value)) (announced : Value) : Except Error Unit := do
  if !announced.isTruthy then return
  let listed ← listedNames announced
  listed.forM Value.checkKey
  let names := canonicalNames [] members
  let aliases := (members.map (·.1)).filter fun name => !names.contains name
  let rest := listed.filter fun v => !aliases.any fun name => v.same (.ofString name)
  if listed.isEmpty || Value.sameItems rest (names.map Value.ofString) then return
  let literal ← orTooLong (Value.list rest).inspect?
  .error (.memberOrder (String.ofList (enclose '[' (names.map literalOf) ']'))
    (String.ofList literal))

/-- The enumeration that is written. -/
def Draft.build (d : Draft) : Except Error Enumeration := do
  let scope ← d.entries.foldlM Scope.enter (Scope.empty d.name)
  match impossibleNames.filter scope.members.contains with
  | [] => pure ()
  | names => throw (.invalidNames (names.map Text.Literal.ofString))
  let fields ← scope.fields d.integral
  if d.name.toList.contains '\x00' then throw .nullInName
  scope.checkQualifiedName
  scope.checkPlace
  let members ← scope.members.mapM fun name => do
    let v ← makeMember scope fields d.integral ((scope.values.get? name).getD .null)
    .ok (name, v)
  checkOrder members ((scope.value? orderName).getD .null)
  let signed := d.signed <|> scope.value? signedName
  .ok ⟨d.name, members, (signed.map Value.isTruthy).getD true, fields⟩

/-! ## Declarations -/

/-- The field that would hide the values of members. -/
def valueField : String := "value"

/-- The declaration of a member, whose value has to be an integer. -/
def declare (e : Enumeration) (m : String × Value) : Except Error Declaration :=
  if e.fields.contains valueField then .error (.fieldUnset e.name valueField)
  else match (canonical e.members m.2).integer? with
  | some n => .ok ⟨.ofString e.name, .ofString m.1, .int n, .bool e.signed⟩
  | none => .error (.memberNotInteger e.name m.1)

/-- The declarations of the members (`EnumSymbolSource.load`). -/
def declarations (e : Enumeration) : Except Error (List Declaration) := e.members.mapM e.declare

end Enumeration

end SymbolText
