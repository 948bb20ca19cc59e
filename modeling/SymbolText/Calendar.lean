import SymbolText.Number.Numeral

/-!
# Dates and moments

A date is a day of the Gregorian calendar in the years 1 to 9999. A moment is a date with a time of
day, to the microsecond, and with a distance from universal time or none.

* `Calendar.Fault`: why parts make no date or moment.
* `Date.make`, `Moment.make`: dates and moments of given parts.
* `Moment.same`: moments are equal if they are at the same instant.
* `Date.render`, `Moment.render`: the written forms.
-/

namespace SymbolText

namespace Calendar

/-- A part that a date or a moment cannot have. -/
inductive Fault
  | year (n : Nat)
  | month
  | day
  | hour
  | minute
  | second
  /-- A distance from universal time, in minutes, of a day or more. -/
  | offset (minutes : Int)
  deriving DecidableEq, Repr

/-- Whether a year has a day more than others. -/
def isLeap (year : Nat) : Bool := year % 4 = 0 && (year % 100 ≠ 0 || year % 400 = 0)

/-- The number of days in a month of a year. -/
def monthLength (year month : Nat) : Nat :=
  if month = 2 then if isLeap year then 29 else 28
  else if month = 4 ∨ month = 6 ∨ month = 9 ∨ month = 11 then 30
  else 31

/-- The last year. -/
def maxYear : Nat := 9999

/-- The number of minutes in a day. -/
def minutesOfDay : Int := 1440

/-- The decimal digits of a number, filled with zeros to a width. -/
def padded (width n : Nat) : List Char :=
  let digits := Numeral.magnitude 10 n
  List.replicate (width - digits.length) '0' ++ digits

/-- The wording of a distance of a day or more: whole days, and seconds beyond them. -/
def distanceText (minutes : Int) : String :=
  let days := minutes.fdiv minutesOfDay
  let seconds := minutes.fmod minutesOfDay * 60
  let shown (n : Int) := String.ofList (Numeral.decimal n)
  let parts := s!"days={shown days}" ++ if seconds = 0 then "" else s!", seconds={shown seconds}"
  s!"datetime.timedelta({parts})"

/-- The wording of a fault. -/
def Fault.message : Fault → String
  | year n => s!"year {String.ofList (Numeral.magnitude 10 n)} is out of range"
  | month => "month must be in 1..12"
  | day => "day is out of range for month"
  | hour => "hour must be in 0..23"
  | minute => "minute must be in 0..59"
  | second => "second must be in 0..59"
  | offset minutes =>
    "offset must be a timedelta strictly between -timedelta(hours=24) and timedelta(hours=24), " ++
      s!"not {distanceText minutes}."

end Calendar

/-- A day of the calendar. -/
structure Date where
  year : Nat
  month : Nat
  day : Nat
  deriving DecidableEq, Repr

namespace Date

open Calendar

/-- The date of a year, a month and a day. -/
def make (year month day : Nat) : Except Fault Date :=
  if year = 0 ∨ maxYear < year then .error (.year year)
  else if month = 0 ∨ 12 < month then .error .month
  else if day = 0 ∨ monthLength year month < day then .error .day
  else .ok ⟨year, month, day⟩

/-- The number of days before a date, from the first day of the year 1 on. -/
def ordinal (d : Date) : Nat :=
  let past := d.year - 1
  let months := (List.range (d.month - 1)).foldl (fun n m => n + monthLength d.year (m + 1)) 0
  365 * past + past / 4 - past / 100 + past / 400 + months + (d.day - 1)

/-- The written form of a date. -/
def render (d : Date) : List Char :=
  padded 4 d.year ++ '-' :: (padded 2 d.month ++ '-' :: padded 2 d.day)

end Date

/-- A date with a time of day. -/
structure Moment where
  date : Date
  hour : Nat
  minute : Nat
  second : Nat
  microsecond : Nat
  /-- The distance from universal time in minutes, if it is known. -/
  offset : Option Int
  deriving DecidableEq, Repr

namespace Moment

open Calendar

/-- A distance from universal time has to be less than a day. -/
def checkOffset (offset : Option Int) : Except Fault Unit :=
  match offset with
  | some minutes =>
    if -minutesOfDay < minutes ∧ minutes < minutesOfDay then .ok () else .error (.offset minutes)
  | none => .ok ()

/-- The moment of a date and the parts of a time. -/
def make (date : Date) (hour minute second microsecond : Nat) (offset : Option Int) :
    Except Fault Moment :=
  if 23 < hour then .error .hour
  else if 59 < minute then .error .minute
  else if 59 < second then .error .second
  else .ok { date, hour, minute, second, microsecond, offset }

/-- The number of microseconds before a moment, by universal time if its distance from it is
known. -/
def instant (m : Moment) : Int :=
  let minutes : Int := (m.date.ordinal * 24 + m.hour) * 60 + m.minute
  ((minutes - m.offset.getD 0) * 60 + m.second) * 1000000 + m.microsecond

/-- Whether two moments are the same instant; one with a distance from universal time differs
from one without. -/
def same (a b : Moment) : Bool := a.offset.isSome == b.offset.isSome && a.instant == b.instant

/-- The written form of a distance from universal time. -/
def renderOffset (minutes : Int) : List Char :=
  (if minutes < 0 then '-' else '+') ::
    (padded 2 (minutes.natAbs / 60) ++ ':' :: padded 2 (minutes.natAbs % 60))

/-- The written form of a moment; a fraction of a second is left out where it is zero. -/
def render (m : Moment) : List Char :=
  m.date.render ++ ' ' :: (padded 2 m.hour ++ ':' :: (padded 2 m.minute ++ ':' ::
    padded 2 m.second)) ++
    (if m.microsecond = 0 then [] else '.' :: padded 6 m.microsecond) ++
    (m.offset.map renderOffset).getD []

end Moment

end SymbolText
