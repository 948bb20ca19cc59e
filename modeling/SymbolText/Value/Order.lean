import SymbolText.Error
import SymbolText.Text.Order

/-!
# Order of values

Numbers are ordered by their value, texts and octets by their units, and tuples and lists by their
first items that differ. Values of other types, or of two kinds, have no order.

* `Value.less`: whether a value comes before another.
* `Value.sort`: values in ascending order.
-/

namespace SymbolText.Value

/-- A number on the line that ends at the infinities. -/
inductive Extended
  | lowest
  | ratio (num : Int) (den : Nat)
  | highest

/-- Whether a number comes before another. -/
def Extended.less : Extended → Extended → Bool
  | lowest, lowest => false
  | lowest, _ => true
  | _, lowest => false
  | ratio a b, ratio c d => decide (a * d < c * b)
  | ratio .., highest => true
  | highest, _ => false

/-- The place of a number on the line; what is not a number has none. -/
def place? : Value → Option Extended
  | .bool b => some (.ratio (if b then 1 else 0) 1)
  | .int n => some (.ratio n 1)
  | .float (.infinity negative) => some (if negative then .lowest else .highest)
  | .float (.finite negative significand exponent) =>
    let (num, den) := Binary64.ratio significand exponent
    some (.ratio (Numeral.signed negative num) den)
  | _ => none

/-- Whether a value is a number, in a wide sense. -/
def isNumber : Value → Bool
  | .bool _ | .int _ | .float _ => true
  | _ => false

mutual
/-- Whether a value comes before another. -/
def less : Value → Value → Except Error Bool
  | .text a, .text b => .ok (!Text.le b a)
  | .bytes a, .bytes b => .ok (decide (a.map UInt8.toNat < b.map UInt8.toNat))
  | .list a, .list b => lessItems a b
  | .tuple a, .tuple b => lessItems a b
  | a, b =>
    if a.isNumber && b.isNumber then
      .ok (match a.place?, b.place? with
        | some x, some y => x.less y
        | _, _ => false)
    else .error (.unordered a.typeName b.typeName)
/-- Whether a sequence comes before another, by the first items that differ. -/
def lessItems : List Value → List Value → Except Error Bool
  | _, [] => .ok false
  | [], _ :: _ => .ok true
  | a :: as, b :: bs => if a.same b then lessItems as bs else less a b
end

/-- Puts a value into its place among sorted ones, behind those that do not come after it. -/
def insertSorted (v : Value) : List Value → Except Error (List Value)
  | [] => .ok [v]
  | w :: rest => do
    if ← v.less w then .ok (v :: w :: rest) else .ok (w :: (← insertSorted v rest))

/-- The values in ascending order (`sorted`). -/
def sort (values : List Value) : Except Error (List Value) :=
  values.foldlM (fun sorted v => insertSorted v sorted) []

end SymbolText.Value
