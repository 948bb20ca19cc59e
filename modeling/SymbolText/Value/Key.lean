import SymbolText.Error

/-!
# Values as keys

A value can be a key if it cannot change: lists and dictionaries cannot, and neither can what
consists of them.

* `Value.changing?`: the type of the first part of a value that may change.
* `Value.checkKey`: whether a value can be a key.
* `Value.setEntry`: sets a key in entries that are compared by `Value.same`.
* `Value.dictionary`: entries with their keys checked, one for each key.
-/

namespace SymbolText.Value

mutual
/-- The name of the type of the first part of a value that may change. -/
def changing? : Value → Option String
  | list items => some (list items).typeName
  | dict entries => some (dict entries).typeName
  | tuple items => changingItem? items
  | literal v => changing? v
  | _ => none
/-- The same for the items of a sequence. -/
def changingItem? : List Value → Option String
  | [] => none
  | v :: rest =>
    match changing? v with
    | some typeName => some typeName
    | none => changingItem? rest
end

/-- Refuses a value that cannot be a key (`hash`). -/
def checkKey (v : Value) : Except Error Unit :=
  match v.changing? with
  | some typeName => .error (.unhashable typeName)
  | none => .ok ()

/-- The entries with the value of a key set; of equal keys the first stays. -/
def setEntry {α : Type} (key : Value) (v : α) : List (Value × α) → List (Value × α)
  | [] => [(key, v)]
  | (k, w) :: rest => if k.same key then (k, v) :: rest else (k, w) :: setEntry key v rest

/-- The value of a key. -/
def entry? {α : Type} (key : Value) (entries : List (Value × α)) : Option α :=
  (entries.find? fun e => e.1.same key).map (·.2)

/-- Sets the keys of some entries in order. -/
def setEntries {α : Type} (entries : List (Value × α)) :
    List (Value × α) → Except Error (List (Value × α))
  | [] => .ok entries
  | (key, v) :: rest => do
    key.checkKey
    setEntries (setEntry key v entries) rest

/-- The dictionary of some entries, where a later value of a key replaces an earlier. -/
def dictionary {α : Type} (entries : List (Value × α)) : Except Error (List (Value × α)) :=
  setEntries [] entries

end SymbolText.Value
