import SymbolText.Number.FloatArithmetic
import SymbolText.Text.Base64
import SymbolText.Text.LowerCase
import SymbolText.Value.Integer
import SymbolText.Yaml.Fault
import SymbolText.Yaml.Kind

/-!
# Values of scalars

A scalar denotes an atom by its kind and its text. The text need not have the form that the kind
has in plain scalars, since a tag can ask for any kind; what then denotes nothing is a fault.

* `Atom`: what scalars denote, with equality and a `Value` for each.
* `Atom.read`: the atom of a kind and a text.
-/

namespace SymbolText.Yaml

/-- What a scalar denotes. -/
inductive Atom
  | value (v : Value)
  | date (d : Date)
  | moment (m : Moment)
  /-- What is not a number, which equals itself only: the one that its own word denotes, or else the
  one of a node. -/
  | notNumber (node : Option Nat)

namespace Atom

/-- Whether two atoms are equal. -/
def same : Atom → Atom → Bool
  | value v, value w => v.same w
  | date a, date b => a = b
  | moment a, moment b => a.same b
  | notNumber m, notNumber n => m == n
  | _, _ => false

/-- The value of an atom; dates and moments stand by their written forms. -/
def toValue : Atom → Value
  | value v => v
  | date d => .ofString (String.ofList d.render)
  | moment m => .ofString (String.ofList m.render)
  | notNumber _ => .float .nan

/-! ## Numbers -/

/-- The integer that digits of base sixty denote, each written as an integer. -/
def sexagesimal (text : Text) : Except Error Int := do
  let digits ← (cutAt (.char ':') text).mapM (integerOfText 10)
  .ok (digits.foldl (fun n d => 60 * n + d) 0)

/-- The integer that an unsigned text denotes: the start of a base comes first, or a zero for base
eight. -/
def magnitude (text : Text) : Except Error Int :=
  match text with
  | [] => .error .emptyNumber
  | [.char '0'] => .ok 0
  | .char '0' :: .char 'b' :: digits => integerOfText 2 digits
  | .char '0' :: .char 'x' :: digits => integerOfText 16 digits
  | .char '0' :: _ => integerOfText 8 text
  | _ => if text.contains (.char ':') then sexagesimal text else integerOfText 10 text

/-- A text without underscores, which has to have others. -/
def numberText (text : Text) : Except Error Text :=
  match text.filter (· ≠ .char '_') with
  | [] => .error .emptyNumber
  | text => .ok text

/-- The sign at the front of a text (whether it is a minus) and what follows it. -/
def splitSign : Text → Bool × Text
  | .char '-' :: rest => (true, rest)
  | .char '+' :: rest => (false, rest)
  | text => (false, text)

/-- The integer that a text denotes. -/
def integer (text : Text) : Except Error Int := do
  let (negative, body) := splitSign (← numberText text)
  let n ← magnitude body
  .ok (if negative then -n else n)

/-- The floating-point number that a text denotes. -/
def floatOf (text : Text) : Except Error Binary64 :=
  match Binary64.ofText? (text.map CodePoint.toChar) with
  | some x => .ok x
  | none => .error (.malformedFloat (String.ofList (Text.Literal.ofText text)))

/-- Adds digits of base sixty to a sum, the last digit first, where `unit` is the worth of the
next one. Every product and every sum is rounded. -/
def addSexagesimal (sum : Binary64) (unit : Nat) : List Binary64 → Except Error Binary64
  | [] => .ok sum
  | digit :: rest =>
    match Binary64.ofInt? unit with
    | some worth => addSexagesimal (sum.add (digit.mul worth)) (60 * unit) rest
    | none => .error .integerBeyondFloats

/-- The floating-point number that an unsigned text denotes. -/
def floatMagnitude (text : Text) : Except Error Binary64 :=
  if text = Text.ofString ".inf" then .ok (.infinity false)
  else if text.contains (.char ':') then do
    let digits ← (cutAt (.char ':') text).mapM floatOf
    addSexagesimal (.zero false) 1 digits.reverse
  else floatOf text

/-- What a text in any case denotes as a floating-point number. -/
def float (text : Text) : Except Error Atom := do
  let (negative, body) := splitSign (Text.lower (← numberText text))
  if body = Text.ofString ".nan" then return .notNumber none
  let x ← floatMagnitude body
  return .value (.float (if negative then x.neg else x))

/-! ## Other scalars -/

/-- The truth value that a text in any case denotes. -/
def truth (text : Text) : Except Error Bool :=
  let word := Text.lower text
  if (Text.string? word).any ["yes", "true", "on"].contains then .ok true
  else if (Text.string? word).any ["no", "false", "off"].contains then .ok false
  else .error (.unknownTruth word)

/-- The octets that a text in ASCII stands for. -/
def octets? (text : Text) : Option (List UInt8) := do
  let chars ← Text.chars? text
  if chars.all fun c => Nat.blt c.toNat 0x80 then Text.Base64.decode chars else none

/-- The date or moment that a text denotes. -/
def time (text : Text) : Except Error Atom :=
  match (Text.chars? text).bind fun chars => WrittenTime.read? (withoutLastBreak chars) with
  | none => .error .malformedTime
  | some t =>
    (match t.clock with
    | none => t.date.map date
    | some clock => (t.moment clock).map moment).mapError .impossibleTime

/-- What a text of a kind denotes. -/
def read (kind : Kind) (text : Text) : Except Fault Atom :=
  match kind with
  | .null => .ok (.value .null)
  | .bool => ((truth text).map fun b => value (.bool b)).mapError .unreadable
  | .integer => ((integer text).map fun n => value (.int n)).mapError .unreadable
  | .float => (float text).mapError .unreadable
  | .binary =>
    match octets? text with
    | some octets => .ok (.value (.bytes octets))
    | none => .error .malformed
  | .time => (time text).mapError .unreadable
  | .text => .ok (.value (.text text))
  | .sequence | .mapping | .set | .pairs | .merge | .default | .unknown => .error .malformed

end Atom

end SymbolText.Yaml
