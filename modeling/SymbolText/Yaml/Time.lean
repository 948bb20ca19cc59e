import SymbolText.Calendar

/-!
# Written dates and moments

A date is written as numbers of the year, the month and the day. A time of day may follow, with a
fraction of a second, and after it a distance from universal time.

* `WrittenTime`, `WrittenTime.read?`: the parts of a written date or moment.
* `isTime`: whether a plain scalar is one: a date alone has two digits for month and day.
-/

namespace SymbolText.Yaml

/-- A written distance from universal time. -/
inductive Zone
  /-- None. -/
  | universal
  /-- Hours and minutes, to the east or the west. -/
  | offset (west : Bool) (hours minutes : Nat)
  deriving DecidableEq, Repr

/-- A written time of day. -/
structure WrittenClock where
  hour : Nat
  minute : Nat
  second : Nat
  /-- The digits of the fraction of a second. -/
  fraction : List Char
  zone : Option Zone
  deriving DecidableEq, Repr

/-- The parts of a written date or moment. -/
structure WrittenTime where
  year : Nat
  month : Nat
  day : Nat
  clock : Option WrittenClock
  deriving DecidableEq, Repr

/-! ## Reading -/

/-- A number of at least `least` and at most `most` digits at the front of a text. -/
def readDigits? (least most : Nat) (text : List Char) : Option (Nat × List Char) :=
  let digits := (text.take most).takeWhile Char.isDigit
  if digits.length < least then none
  else some (Numeral.ofDigits 10 0 digits, text.drop digits.length)

/-- What follows a character that a text has to start with. -/
def skipChar? (c : Char) : List Char → Option (List Char)
  | [] => none
  | d :: rest => if c = d then some rest else none

/-- Whether a character separates words within a line. -/
def isTimeBlank (c : Char) : Bool := c = ' ' || c = '\t'

/-- The written distance from universal time that a text is; blanks may come before it. -/
def readZone? (text : List Char) : Option (Option Zone) :=
  match text with
  | [] => some none
  | text =>
    match text.dropWhile isTimeBlank with
    | ['Z'] => some (some .universal)
    | sign :: rest =>
      if sign = '+' ∨ sign = '-' then do
        let (hours, rest) ← readDigits? 1 2 rest
        match rest with
        | [] => some (some (.offset (sign = '-') hours 0))
        | rest =>
          match ← readDigits? 2 2 (← skipChar? ':' rest) with
          | (minutes, []) => some (some (.offset (sign = '-') hours minutes))
          | _ => none
      else none
    | [] => none

/-- The digits of the fraction at the front of a text, and what follows them. -/
def splitFraction : List Char → List Char × List Char
  | '.' :: rest => (rest.takeWhile Char.isDigit, rest.dropWhile Char.isDigit)
  | text => ([], text)

/-- The written time of day that a text is. -/
def readClock? (text : List Char) : Option WrittenClock := do
  let (hour, rest) ← readDigits? 1 2 text
  let (minute, rest) ← readDigits? 2 2 (← skipChar? ':' rest)
  let (second, rest) ← readDigits? 2 2 (← skipChar? ':' rest)
  let (fraction, rest) := splitFraction rest
  some { hour, minute, second, fraction, zone := ← readZone? rest }

/-- What follows the separator between a date and a time of day: a letter or blanks. -/
def skipSeparator? : List Char → Option (List Char)
  | [] => none
  | c :: rest =>
    if c = 'T' ∨ c = 't' then some rest
    else if isTimeBlank c then some (rest.dropWhile isTimeBlank)
    else none

/-- The written date or moment that a text is. -/
def WrittenTime.read? (text : List Char) : Option WrittenTime := do
  let (year, rest) ← readDigits? 4 4 text
  let (month, rest) ← readDigits? 1 2 (← skipChar? '-' rest)
  let (day, rest) ← readDigits? 1 2 (← skipChar? '-' rest)
  match rest with
  | [] => some { year, month, day, clock := none }
  | rest => some { year, month, day, clock := some (← readClock? (← skipSeparator? rest)) }

/-- The length of a date that has two digits for month and day. -/
def fullDateLength : Nat := 10

/-- Whether a plain scalar is a date or a moment. -/
def isTime (text : List Char) : Bool :=
  (WrittenTime.read? text).any fun t => t.clock.isSome || text.length = fullDateLength

/-! ## Dates and moments -/

/-- The number of digits of a fraction that count. -/
def fractionDigits : Nat := 6

/-- The microseconds that the digits of a fraction denote; further digits are cut off. -/
def microseconds (fraction : List Char) : Nat :=
  let digits := fraction.take fractionDigits
  Numeral.ofDigits 10 0 (digits ++ List.replicate (fractionDigits - digits.length) '0')

/-- The distance from universal time in minutes. -/
def Zone.minutes : Zone → Int
  | universal => 0
  | offset west hours minutes => Numeral.signed west (hours * 60 + minutes)

/-- The date of the parts. -/
def WrittenTime.date (t : WrittenTime) : Except Calendar.Fault Date :=
  Date.make t.year t.month t.day

/-- The moment of the parts and a time of day; the distance from universal time is checked
first. -/
def WrittenTime.moment (t : WrittenTime) (c : WrittenClock) : Except Calendar.Fault Moment := do
  let offset := c.zone.map Zone.minutes
  Moment.checkOffset offset
  Moment.make (← t.date) c.hour c.minute c.second (microseconds c.fraction) offset

end SymbolText.Yaml
