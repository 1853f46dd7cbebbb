import EnumText.Text.Rune

/-!
Dates and times, alone or together, with their display forms.

- `Date` is a day of the calendar, and `TimeOfDay` a time on any day.
- `Moment` is one of them, or both with an offset from universal time.
-/

namespace EnumText

/-- Whether a year has a leap day. -/
def isLeapYear (year : Nat) : Bool := year % 4 == 0 && (year % 100 != 0 || year % 400 == 0)

/-- The number of days in a month. -/
def daysIn (year month : Nat) : Nat :=
  if month = 2 then if isLeapYear year then 29 else 28
  else if [4, 6, 9, 11].contains month then 30
  else 31

/-- A day of the calendar. -/
structure Date where
  year : Nat
  month : Nat
  day : Nat
  year_pos : 0 < year
  month_bounds : 1 ≤ month ∧ month ≤ 12
  day_bounds : 1 ≤ day ∧ day ≤ daysIn year month
deriving DecidableEq

namespace Date

instance : Inhabited Date := ⟨⟨1, 1, 1, by decide, by decide, by decide⟩⟩

/-- The day with a year, a month and a day in the month, if there is such a one. -/
def ofNumbers? (year month day : Nat) : Option Date :=
  if h : 0 < year ∧ (1 ≤ month ∧ month ≤ 12) ∧ 1 ≤ day ∧ day ≤ daysIn year month then
    some ⟨year, month, day, h.1, h.2.1, h.2.2⟩
  else none

/-- Year, month and day. -/
def numbers (d : Date) : List Nat := [d.year, d.month, d.day]

end Date

/-- A time on any day. -/
structure TimeOfDay where
  hour : Fin 24
  minute : Fin 60
  second : Fin 60
  microsecond : Fin 1000000
deriving DecidableEq, Inhabited

/-- Hour and minute, with the second and the microsecond as far as they are not zero. -/
def TimeOfDay.numbers (t : TimeOfDay) : List Nat :=
  [t.hour.val, t.minute.val] ++
    if t.microsecond ≠ 0 then [t.second.val, t.microsecond.val]
    else if t.second ≠ 0 then [t.second.val]
    else []

/-- A date, a time, or both. -/
inductive Moment where
  | date (d : Date)
  | time (t : TimeOfDay)
  /-- A time on a day, with the minutes that it is ahead of universal time if they are known. -/
  | both (d : Date) (t : TimeOfDay) (offset : Option Int)
deriving DecidableEq, Inhabited

namespace Moment

/-- The display form of a constructor with its arguments. -/
def applied (constructor : String) (arguments : List Text) : Text :=
  text constructor ++ text "(" ++ List.intercalate (text ", ") arguments ++ text ")"

/-- The number of seconds in a day. -/
def secondsInDay : Int := 86400

/-- The display form of an offset in minutes. A negative one is a day back and some seconds
ahead. -/
def displayOffset (minutes : Int) : Text :=
  let seconds (n : Int) : Text := text "seconds=" ++ Text.ofInt n
  let zone (arguments : List Text) : Text :=
    applied "datetime.timezone" [applied "datetime.timedelta" arguments]
  if minutes = 0 then text "datetime.timezone.utc"
  else if 0 < minutes then zone [seconds (60 * minutes)]
  else zone [text "days=-1", seconds (secondsInDay + 60 * minutes)]

/-- The display form of a moment. -/
def display : Moment → Text
  | .date d => applied "datetime.date" (d.numbers.map Text.ofNat)
  | .time t => applied "datetime.time" (t.numbers.map Text.ofNat)
  | .both d t offset =>
    let zone := offset.map fun minutes => text "tzinfo=" ++ displayOffset minutes
    applied "datetime.datetime" ((d.numbers ++ t.numbers).map Text.ofNat ++ zone.toList)

end Moment

end EnumText
