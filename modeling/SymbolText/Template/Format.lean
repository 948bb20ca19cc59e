import SymbolText.Error
import SymbolText.Template.Directive
import SymbolText.Text.CodePoint
import SymbolText.Text.Utf8

/-!
# Applying a directive

A directive turns one value into text. Numeric verbs write a number, the others a text; the
flags, width and precision then say how it is padded or cut.

Models of `format_one` and of the functions it calls: `_as_text`, `_hex`, `_quote`, `_describe` and
the operator `%`.

* `Spec`: what flags, width and precision ask for.
* `Verb`: what the letters ask for, and `Verb.write?`, what is written for a value.
* `Directive.format`: the text of a value, or `%!verb(type=value)` for a value that the verb
  cannot write.
-/

namespace SymbolText

/-! ## Flags, width and precision -/

/-- What the flags, width and precision of a directive ask for (`%`). -/
structure Spec where
  /-- Pad on the right. -/
  left : Bool
  /-- Show the sign of a number that has no minus as a plus. -/
  plus : Bool
  /-- Show it as a blank. -/
  space : Bool
  /-- Show the base of an integer, and keep the point and zeros of a number. -/
  alternate : Bool
  /-- Pad a number with zeros behind its sign and base. -/
  zero : Bool
  /-- The least number of characters. -/
  width : Nat
  precision : Option Nat
  deriving DecidableEq, Repr

namespace Spec

/-- The greatest width. -/
def maxWidth : Nat := 9223372036854775807

/-- The greatest precision. -/
def maxPrecision : Nat := 2147483647

/-- The number that digits denote, if they are ASCII digits and it is at most `limit`. -/
def number? (limit : Nat) (digits : List Char) : Option Nat :=
  let n := Numeral.ofDigits 10 0 digits
  if digits.all Char.isDigit ∧ n ≤ limit then some n else none

/-- What a directive asks for, unless its width or precision is too big or not in ASCII. -/
def ofDirective? (d : Directive) : Option Spec := do
  let width ← number? maxWidth d.width
  let precision ← match d.precision with
    | none => some none
    | some digits => (number? maxPrecision digits).map some
  some
    { left := d.flags.contains '-'
      plus := d.flags.contains '+'
      space := d.flags.contains ' '
      alternate := d.flags.contains '#'
      zero := d.flags.contains '0'
      width, precision }

/-- Pads a sequence with blanks to the width. -/
def padWith {α : Type} (spec : Spec) (blank : α) (units : List α) : List α :=
  let blanks := List.replicate (spec.width - units.length) blank
  if spec.left then units ++ blanks else blanks ++ units

/-- Cuts a text to the precision and pads it. -/
def padText (spec : Spec) (text : Text) : Text :=
  spec.padWith (.char ' ') (match spec.precision with
    | some n => text.take n
    | none => text)

/-- Cuts characters to the precision and pads them. -/
def padChars (spec : Spec) (chars : List Char) : Text := spec.padText (.ofChars chars)

/-- The sign of a number that is negative or not. -/
def sign (spec : Spec) (negative : Bool) : List Char :=
  if negative then ['-'] else if spec.plus then ['+'] else if spec.space then [' '] else []

/-- Pads a number, given in its sign, the mark of its base and its digits. -/
def padNumber (spec : Spec) (sign base digits : List Char) : List Char :=
  if spec.zero && !spec.left then
    let used := sign.length + base.length + digits.length
    sign ++ base ++ List.replicate (spec.width - used) '0' ++ digits
  else spec.padWith ' ' (sign ++ base ++ digits)

end Spec

/-! ## Verbs -/

/-- The bases that integers are written in. -/
inductive Base
  | decimal
  | octal
  | hexadecimal (upper : Bool)
  deriving DecidableEq, Repr

/-- The number of digits of a base. -/
def Base.radix : Base → Nat
  | decimal => 10
  | octal => 8
  | hexadecimal _ => 16

/-- The mark of a base. -/
def Base.mark : Base → List Char
  | decimal => []
  | octal => ['0', 'o']
  | hexadecimal upper => ['0', if upper then 'X' else 'x']

/-- The forms that fractions are written in. -/
inductive FloatForm
  | exponent
  | fixed
  | general
  deriving DecidableEq, Repr

/-- What a verb writes (`_NATIVE_VERBS`). -/
inductive Verb
  /-- An integer in a base. -/
  | integer (base : Base)
  /-- A number as a decimal fraction. -/
  | float (form : FloatForm) (upper : Bool)
  /-- One code point, given by its number or as a character. -/
  | character
  /-- The plain text of a value. -/
  | plain
  /-- The literal of a value. -/
  | literal
  /-- The literal in ASCII. -/
  | asciiLiteral
  /-- The name of a value's type. -/
  | typeName
  /-- The plain text between double quotes. -/
  | quoted
  /-- A truth value. -/
  | truth
  /-- An integer in base two. -/
  | binary
  deriving DecidableEq, Repr

namespace Verb

/-- The verb of a letter. -/
def ofChar? (c : Char) : Option Verb :=
  if c = 'd' ∨ c = 'i' ∨ c = 'u' then some (.integer .decimal)
  else if c = 'o' then some (.integer .octal)
  else if c = 'x' then some (.integer (.hexadecimal false))
  else if c = 'X' then some (.integer (.hexadecimal true))
  else if c = 'e' ∨ c = 'E' then some (.float .exponent (decide (c = 'E')))
  else if c = 'f' ∨ c = 'F' then some (.float .fixed (decide (c = 'F')))
  else if c = 'g' ∨ c = 'G' then some (.float .general (decide (c = 'G')))
  else if c = 'c' then some .character
  else if c = 's' ∨ c = 'v' then some .plain
  else if c = 'r' then some .literal
  else if c = 'a' then some .asciiLiteral
  else if c = 'T' then some .typeName
  else if c = 'q' then some .quoted
  else if c = 't' then some .truth
  else if c = 'b' then some .binary
  else none

/-- A text in upper case if `upper` is set. -/
def inCase (upper : Bool) (text : List Char) : List Char :=
  if upper then text.map Char.toUpper else text

/-- The greatest precision of an integer. -/
def maxIntegerPrecision : Nat := 2147483644

/-- The digits of an integer without sign, filled with zeros to the precision. -/
def integerDigits? (spec : Spec) (base : Base) (n : Int) : Option (List Char) :=
  let least := spec.precision.getD 0
  if maxIntegerPrecision < least then none
  else if base = .decimal ∧ Numeral.isTooLong n then none
  else
    let digits := Numeral.magnitude base.radix n.natAbs
    let digits := inCase (decide (base = .hexadecimal true)) digits
    some (List.replicate (least - digits.length) '0' ++ digits)

/-- An integer in a base. -/
def formatInteger? (spec : Spec) (base : Base) (n : Int) : Option (List Char) := do
  let digits ← integerDigits? spec base n
  some (spec.padNumber (spec.sign (decide (n < 0))) (if spec.alternate then base.mark else [])
    digits)

/-- The hexadecimal digits of octets, two for each (`_hex`). -/
def hexOfOctets (octets : List UInt8) : List Char := octets.flatMap Text.Utf8.hexOctet

/-- The octets of a text without surrogates or of octets. -/
def octets? : Value → Option (List UInt8)
  | .text s => (Text.chars? s).map Text.Utf8.encode
  | .bytes octets => some octets
  | _ => none

/-- The number that a value is, where an integer beyond all fractions is none. -/
def number? : Value → Option Binary64
  | .float x => some x
  | .int n => Binary64.ofInt? n
  | .bool b => Binary64.ofInt? (if b then 1 else 0)
  | _ => none

/-- A number in a form, without padding. -/
def floatText (spec : Spec) (form : FloatForm) (x : Binary64) : List Char :=
  let precision := spec.precision.getD 6
  match form with
  | .exponent => x.exponentText spec.alternate precision
  | .fixed => x.fixedText spec.alternate precision
  | .general => x.generalText spec.alternate precision

/-- A number as a decimal fraction. -/
def formatFloat (spec : Spec) (form : FloatForm) (upper : Bool) (x : Binary64) : List Char :=
  let (negative, digits) := match inCase upper (floatText spec form x) with
    | '-' :: digits => (true, digits)
    | digits => (false, digits)
  spec.padNumber (spec.sign negative) [] digits

/-- The code point that a value is the number of, or is a text of. -/
def codePoint? : Value → Option CodePoint
  | .int n => if 0 ≤ n then CodePoint.ofNumber? n.toNat else none
  | .bool b => CodePoint.ofNumber? b.toNat
  | .text [p] => some p
  | _ => none

/-- Whether a backslash comes before a code point between double quotes. -/
def isEscaped (p : CodePoint) : Bool := p == .char '"' || p == .char '\\'

/-- A text between double quotes, with a backslash before each quote and backslash in it
(`_quote`). -/
def quote (text : Text) : Text :=
  .char '"' :: (text.flatMap (fun p => if isEscaped p then [.char '\\', p] else [p]) ++ [.char '"'])

/-- An integer in base two, with its sign (`_as_text`). -/
def binaryText (n : Int) : List Char :=
  if n < 0 then '-' :: Numeral.magnitude 2 n.natAbs else Numeral.magnitude 2 n.natAbs

/-- What a verb writes for a value (`_as_text`); `none` if it cannot write it. -/
def write? (verb : Verb) (spec : Spec) (v : Value) : Option Text :=
  match verb with
  | .integer base =>
    match v.integer?, base, octets? v with
    | some n, base, _ => (formatInteger? spec base n).map Text.ofChars
    | none, .hexadecimal upper, some octets =>
      some (spec.padChars (inCase upper (hexOfOctets octets)))
    | none, _, _ => none
  | .float form upper => (number? v).map fun x => Text.ofChars (formatFloat spec form upper x)
  | .character => (codePoint? v).map fun p => spec.padWith (.char ' ') [p]
  | .plain => v.show?.map spec.padText
  | .literal => v.inspect?.map spec.padChars
  | .asciiLiteral => v.inspectAscii?.map spec.padChars
  | .typeName => some (spec.padText v.typeName)
  | .quoted => v.show?.map fun text => spec.padText (quote text)
  | .truth =>
    match v with
    | .bool b => some (spec.padText (if b then "true" else "false"))
    | _ => none
  | .binary => v.integer?.map fun n => spec.padChars (binaryText n)

end Verb

/-! ## Directives -/

namespace Directive

/-- The type and plain text of a value (`_describe`). -/
def describe (v : Value) : Except Error Text := do
  let text ← orTooLong v.show?
  .ok (Text.ofString v.typeName ++ .char '=' :: text)

/-- What a directive asks for of a value, if it can be written (`format_one`). -/
def write? (d : Directive) (v : Value) : Option Text := do
  let spec ← Spec.ofDirective? d
  let verb ← Verb.ofChar? d.verb
  verb.write? spec v

/-- What is written for a value (`format_one`); one that cannot be written as asked for is described
instead. -/
def format (d : Directive) (v : Value) : Except Error Text :=
  match d.write? v with
  | some text => .ok text
  | none => do
    let described ← describe v
    .ok (Text.ofChars ['%', '!', d.verb, '('] ++ described ++ Text.ofString ")")

end Directive

end SymbolText
