import SymbolText.Text.Blank
import SymbolText.Text.DecimalDigit

/-!
# Integer numerals

Writing integers in a base, and reading numerals.

* `magnitude`, `decimal`: the digits of a natural number in a base, and the decimal numeral of
  an integer, without a limit.
* `decimal?`: the same where numerals have a largest length, `maxDigits`.
* `readIn`, `read`: the integer that a text denotes in a base, and in base ten. Blanks around the
  numeral, a sign, and single underscores between digits are allowed, and the digits may be
  those of any script.
-/

namespace SymbolText.Numeral

/-! ## Writing -/

/-- The digits of `n` in a base from 2 to 16, the most significant first. -/
def magnitude (base n : Nat) : List Char := Nat.toDigits base n

/-- The decimal numeral of an integer. -/
def decimal (n : Int) : List Char :=
  if n < 0 then '-' :: magnitude 10 n.natAbs else magnitude 10 n.natAbs

/-- The largest number of digits that a decimal numeral may have. -/
def maxDigits : Nat := 4300

/-- Whether the decimal numeral of an integer is longer than numerals may be. -/
def isTooLong (n : Int) : Bool := Nat.blt maxDigits (magnitude 10 n.natAbs).length

/-- The decimal numeral of an integer, unless it is longer than numerals may be. -/
def decimal? (n : Int) : Option (List Char) :=
  if isTooLong n then none else some (decimal n)

/-! ## Reading -/

/-- Why a text denotes no integer. -/
inductive Fault
  /-- It is not a numeral. -/
  | malformed
  /-- It has the given number of digits, more than numerals may have whose base is no power of
  two. -/
  | tooLong (digits : Nat)
  deriving DecidableEq, Repr

/-- The ASCII digit for a decimal digit of any script, and the character itself otherwise. -/
def plainDigit (c : Char) : Char :=
  match decimalDigit? c with
  | some d => Nat.digitChar d
  | none => c
where
  /-- The value of a decimal digit above ASCII. -/
  decimalDigit? (c : Char) : Option Nat :=
    if c.toNat < 0x80 then none else Text.decimalValue? c

/-- The sign at the front of a numeral (whether it is a minus) and what follows it. -/
def splitSign : List Char → Bool × List Char
  | '-' :: rest => (true, rest)
  | '+' :: rest => (false, rest)
  | text => (false, text)

/-- Whether every underscore stands between two digits, given whether a digit came just
before. -/
def underscoresSeparate (afterDigit : Bool) : List Char → Bool
  | [] => afterDigit
  | '_' :: rest => afterDigit && underscoresSeparate false rest
  | _ :: rest => underscoresSeparate true rest

/-- The number that ASCII digits denote in a base, after `acc`. -/
def ofDigits (base : Nat) (acc : Nat) : List Char → Nat
  | [] => acc
  | c :: rest => ofDigits base (acc * base + digitValue c) rest
where
  /-- The value of an ASCII digit or letter. -/
  digitValue (c : Char) : Nat :=
    if c.isDigit then c.toNat - '0'.toNat else c.toLower.toNat - 'a'.toNat + 10

/-- An integer of a sign and a magnitude. -/
def signed (negative : Bool) (n : Nat) : Int := if negative then -(n : Int) else n

/-- The value of an ASCII digit or letter as a digit. -/
def digit? (c : Char) : Option Nat :=
  if c.isAlphanum then some (ofDigits.digitValue c) else none

/-- Whether a character is a digit of a base, or an underscore. -/
def isNumeralChar (base : Nat) (c : Char) : Bool := c = '_' || (digit? c).any (Nat.blt · base)

/-- The base that the mark at the front of a numeral asks for. -/
def markedBase? : List Char → Option Nat
  | '0' :: mark :: _ =>
    if mark = 'x' ∨ mark = 'X' then some 16
    else if mark = 'o' ∨ mark = 'O' then some 8
    else if mark = 'b' ∨ mark = 'B' then some 2
    else none
  | _ => none

/-- What follows the mark of a base, without an underscore in front. -/
def afterMark (body : List Char) : List Char :=
  match body.drop 2 with
  | '_' :: rest => rest
  | rest => rest

/-- The base in which an unsigned numeral is read, and its digits. A mark of the base may come
before the digits; base zero stands for the marked base, and for ten where none is marked. -/
def splitBase (base : Nat) (body : List Char) : Nat × List Char :=
  match markedBase? body with
  | some marked =>
    if base = 0 ∨ base = marked then (marked, afterMark body) else (base, body)
  | none => (if base = 0 then 10 else base, body)

/-- Whether the numerals of a base may have any length: its digits stand for whole bits. -/
def isUnlimited (base : Nat) : Bool := [2, 4, 8, 16, 32].contains base

/-- Whether base zero forbids a numeral: digits without a mark that start with a zero but are not
all zeros. -/
def hasIdleZero (base : Nat) (body digits : List Char) : Bool :=
  base = 0 && (markedBase? body).isNone && digits.head? == some '0' && !digits.all (· = '0')

/-- The integer that a numeral of a base denotes. -/
def readIn (base : Nat) (text : List Char) : Except Fault Int :=
  let (negative, body) := splitSign ((text.map plainDigit).dropWhile Text.isNumeralBlank)
  let (radix, numeral) := splitBase base body
  let run := numeral.takeWhile (isNumeralChar radix)
  let digits := run.filter (· ≠ '_')
  let rest := numeral.dropWhile (isNumeralChar radix)
  if !underscoresSeparate false run then .error .malformed
  else if !isUnlimited radix && Nat.blt maxDigits digits.length then
    .error (.tooLong digits.length)
  else if hasIdleZero base body digits || !rest.all Text.isNumeralBlank then .error .malformed
  else .ok (signed negative (ofDigits radix 0 digits))

/-- The integer that a decimal numeral denotes (`int`). -/
def read (text : List Char) : Except Fault Int := readIn 10 text

end SymbolText.Numeral
