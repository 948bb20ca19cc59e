import SymbolText.Number.Decimal
import SymbolText.Number.Numeral
import SymbolText.Text.Line

/-!
# Written forms of binary numbers

The texts of a number of the 64-bit binary format, without padding.

* `Binary64.shortText`: the fewest digits that read back, positional between `10 ^ -4` and
  `10 ^ 16` and with an exponent outside of it; a whole number keeps `.0`.
* `Binary64.fixedText`, `exponentText`, `generalText`: a given number of places, a mantissa and
  exponent with a given number of places, or a given number of digits in the shorter of the two
  forms.
* `Binary64.ofText?`: reading a decimal fraction.
-/

namespace SymbolText.Binary64

open Decimal (Expansion)

/-- What is not a finite number is written as a word. -/
def word (negative : Bool) (body : List Char) : List Char :=
  if negative then '-' :: body else body

/-- A run of zeros. -/
def zeros (n : Nat) : List Char := List.replicate n '0'

/-- The decimal point, which is left out where no digit follows unless `always` is set. -/
def withPoint (always : Bool) (whole fraction : List Char) : List Char :=
  if fraction.isEmpty && !always then whole else whole ++ '.' :: fraction

/-- The parts of an expansion before and after the decimal point. -/
def splitPoint (e : Expansion) : List Char × List Char :=
  if e.point ≤ 0 then (['0'], zeros (-e.point).toNat ++ e.digits)
  else
    let n := e.point.toNat
    (e.digits.take n ++ zeros (n - e.digits.length), e.digits.drop n)

/-- A decimal exponent: its sign and at least two digits. -/
def exponentPart (mark : Char) (n : Int) : List Char :=
  let digits := Nat.toDigits 10 n.natAbs
  mark :: (if n < 0 then '-' else '+') :: (zeros (2 - digits.length) ++ digits)

/-- An expansion as a mantissa of one digit before the point, and an exponent. -/
def scientific (always : Bool) (e : Expansion) : List Char :=
  withPoint always (e.digits.take 1) (e.digits.drop 1) ++ exponentPart 'e' (e.point - 1)

/-! ## The shortest form -/

/-- The shortest form of a positive finite number: positional where the decimal point lies at
most three zeros before the digits and at most sixteen places after their start. -/
def shortPositive (significand : Nat) (exponent : Int) : List Char :=
  let e := Decimal.shortest significand exponent
  if -4 < e.point ∧ e.point ≤ 16 then
    let (whole, fraction) := splitPoint e
    whole ++ '.' :: (if fraction.isEmpty then ['0'] else fraction)
  else scientific false e

/-- The shortest form of a number. -/
def shortText : Binary64 → List Char
  | .nan => ['n', 'a', 'n']
  | .infinity negative => word negative ['i', 'n', 'f']
  | .finite negative 0 _ => word negative ['0', '.', '0']
  | .finite negative significand exponent => word negative (shortPositive significand exponent)

/-! ## Forms of a given precision -/

/-- The digits of a magnitude rounded to `count` significant ones; zero has zeros only. -/
def roundedDigits (significand : Nat) (exponent : Int) (count : Nat) : Expansion :=
  if significand = 0 then ⟨zeros count, 1⟩
  else
    let (num, den) := ratio significand exponent
    Decimal.significant num den count

/-- A magnitude with `places` digits after the point. -/
def fixedMagnitude (always : Bool) (places significand : Nat) (exponent : Int) : List Char :=
  let (num, den) := ratio significand exponent
  let digits := Nat.toDigits 10 (Decimal.roundToPlace num den (-places))
  let digits := zeros (places + 1 - digits.length) ++ digits
  let whole := digits.length - places
  withPoint always (digits.take whole) (digits.drop whole)

/-- A magnitude with one digit before the point, `places` after it, and an exponent. -/
def exponentMagnitude (always : Bool) (places significand : Nat) (exponent : Int) : List Char :=
  scientific always (roundedDigits significand exponent (places + 1))

/-- A magnitude with `precision` significant digits: with an exponent where the decimal point
lies more than three zeros before the digits or behind the last of them. Zeros at the end are
left out unless `always` is set. -/
def generalMagnitude (always : Bool) (precision significand : Nat) (exponent : Int) :
    List Char :=
  let precision := max precision 1
  let e := roundedDigits significand exponent precision
  let shown := if always then e else if significand = 0 then ⟨['0'], 1⟩ else e.trimZeros
  if -4 < e.point ∧ e.point ≤ precision then
    let (whole, fraction) := splitPoint shown
    withPoint always whole fraction
  else scientific always shown

/-- A number whose magnitude is written by `magnitude`. -/
def textWith (magnitude : Nat → Int → List Char) : Binary64 → List Char
  | .nan => ['n', 'a', 'n']
  | .infinity negative => word negative ['i', 'n', 'f']
  | .finite negative significand exponent => word negative (magnitude significand exponent)

/-- A number with `places` digits after the point. -/
def fixedText (always : Bool) (places : Nat) : Binary64 → List Char :=
  textWith (fixedMagnitude always places)

/-- A number with a mantissa of `places` digits after the point, and an exponent. -/
def exponentText (always : Bool) (places : Nat) : Binary64 → List Char :=
  textWith (exponentMagnitude always places)

/-- A number with `precision` significant digits in the shorter form. -/
def generalText (always : Bool) (precision : Nat) : Binary64 → List Char :=
  textWith (generalMagnitude always precision)

/-! ## Reading -/

/-- The digits at the front of a text, where single underscores between digits are dropped,
and what follows them. -/
def splitDigits (text : List Char) : Option (List Char × List Char) :=
  let run := text.takeWhile fun c => c.isDigit || c = '_'
  let rest := text.dropWhile fun c => c.isDigit || c = '_'
  if run.isEmpty then some ([], rest)
  else if Numeral.underscoresSeparate false run then some (run.filter (· ≠ '_'), rest)
  else none

/-- The exponent at the end of a decimal fraction. -/
def exponentOf? : List Char → Option Int
  | [] => some 0
  | mark :: rest =>
    if mark = 'e' || mark = 'E' then
      let (negative, body) := Numeral.splitSign rest
      match splitDigits body with
      | some (digits, []) =>
        if digits.isEmpty then none
        else some (Numeral.signed negative (Numeral.ofDigits 10 0 digits))
      | _ => none
    else none

/-- The number nearest to an unsigned decimal fraction. -/
def ofMagnitudeText? (negative : Bool) (text : List Char) : Option Binary64 := do
  let (whole, rest) ← splitDigits text
  let (fraction, rest) ← match rest with
    | '.' :: rest => splitDigits rest
    | rest => some ([], rest)
  let exponent ← exponentOf? rest
  let digits := whole ++ fraction
  if digits.isEmpty then none
  else
    let n := Numeral.ofDigits 10 0 digits
    some (ofDecimal negative n (Decimal.digitCount n) (exponent - fraction.length))

/-- The number that a text denotes: a decimal fraction, or a word for what is not finite, with
blanks around it. -/
def ofText? (text : List Char) : Option Binary64 :=
  let text := Text.trim Text.isNumeralBlank (text.map Numeral.plainDigit)
  let (negative, body) := Numeral.splitSign text
  let lower := body.map Char.toLower
  if lower = "inf".toList || lower = "infinity".toList then some (.infinity negative)
  else if lower = "nan".toList then some .nan
  else ofMagnitudeText? negative body

end SymbolText.Binary64
