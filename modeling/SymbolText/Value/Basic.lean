import SymbolText.Number.Binary64
import SymbolText.Symbol.Basic

/-!
# Values

The values that texts are formatted with, that declarations hold before they are checked, and
that symbol files consist of.

* `Value`: the type.
* `Value.typeName`: the name of a value's type.
* `Value.isTruthy`: whether a value counts as true.
* `Value.integer?`, `text?`: the integer, where truth values are none, or the text that a value is.
* `Value.same`: equality, under which numbers of different types are compared as numbers.
-/

namespace SymbolText

/-- A value of one of the types that arguments, declarations and symbol files can have. -/
inductive Value
  | null
  | bool (b : Bool)
  | int (n : Int)
  | float (x : Binary64)
  | text (s : Text)
  | bytes (octets : List UInt8)
  | list (items : List Value)
  | tuple (items : List Value)
  | dict (entries : List (Value × Value))
  | symbol (s : Symbol)
  /-- A symbol of a translated type, given by type and value. -/
  | reference (typeName : String) (value : Int)
  /-- A value that is substituted as it is. -/
  | literal (v : Value)

namespace Value

/-- The name of a value's type. -/
def typeName : Value → String
  | null => "NoneType"
  | bool _ => "bool"
  | int _ => "int"
  | float _ => "float"
  | text _ => "str"
  | bytes _ => "bytes"
  | list _ => "list"
  | tuple _ => "tuple"
  | dict _ => "dict"
  | symbol _ => "Symbol"
  | reference .. => "SymbolRef"
  | literal _ => "Literal"

/-- Whether a value counts as true (`bool`): zero, what is empty and the null value do not. -/
def isTruthy : Value → Bool
  | null => false
  | bool b => b
  | int n => decide (n ≠ 0)
  | float x => !x.isZero
  | text s => !s.isEmpty
  | bytes octets => !octets.isEmpty
  | list items => !items.isEmpty
  | tuple items => !items.isEmpty
  | dict entries => !entries.isEmpty
  | _ => true

/-- The integer that a value is; truth values are not integers here. -/
def integer? : Value → Option Int
  | int n => some n
  | _ => none

/-- The value of a string. -/
def ofString (s : String) : Value := text (.ofString s)

/-- The text that a value is. -/
def text? : Value → Option Text
  | text s => some s
  | _ => none

/-- The string that a value is, which is a text without surrogates. -/
def string? (v : Value) : Option String := v.text?.bind Text.string?

/-! ## Equality -/

/-- The number that a value stands for in comparisons. -/
def number? : Value → Option Binary64
  | float x => some x
  | _ => none

/-- The integer that a value stands for in comparisons: a truth value is one or zero, and a
whole floating-point number is its integer. -/
def comparedInteger? : Value → Option Int
  | bool b => some (if b then 1 else 0)
  | int n => some n
  | float x => x.toInt?
  | _ => none

mutual
/-- Whether two values are equal (`==`). Numbers are compared by their value, sequences item by
item, and dictionaries entry by entry in any order. -/
def same : Value → Value → Bool
  | null, null => true
  | text a, text b => a == b
  | bytes a, bytes b => a == b
  | list a, list b => sameItems a b
  | tuple a, tuple b => sameItems a b
  | dict a, dict b => a.length == b.length && entriesWithin a b
  | symbol a, symbol b => decide (a = b)
  | reference t v, reference t' v' => t == t' && v == v'
  | literal a, literal b => same a b
  | a, b =>
    match a.comparedInteger?, b.comparedInteger? with
    | some m, some n => m == n
    | none, none =>
      match a.number?, b.number? with
      | some x, some y => x.same y
      | _, _ => false
    | _, _ => false
/-- Whether two sequences are equal item by item. -/
def sameItems : List Value → List Value → Bool
  | [], [] => true
  | a :: as, b :: bs => same a b && sameItems as bs
  | _, _ => false
/-- Whether every entry of the first dictionary is one of the second. -/
def entriesWithin : List (Value × Value) → List (Value × Value) → Bool
  | [], _ => true
  | (k, v) :: rest, other =>
    (other.any fun entry => same k entry.1 && same v entry.2) && entriesWithin rest other
end

end Value

end SymbolText
