import SqlTemplate.Numeral.Digits
import SqlTemplate.Value.Basic

/-! Dates and times of day as values, within their ranges. -/
namespace SqlTemplate

/-- A part of a date or a time that is out of its range. -/
inductive CalendarFault
  | year (value : Nat)
  | month
  | day
  | hour
  | minute
  | second
  | offset (minutes : Int)
  deriving DecidableEq, Repr

/-- A date that may be out of range. -/
structure Calendar.Date where
  year : Nat
  month : Nat
  day : Nat
  deriving DecidableEq, Repr

/-- A time of day that may be out of range. -/
structure Calendar.Time where
  hour : Nat
  minute : Nat
  second : Nat
  microsecond : Nat
  deriving DecidableEq, Repr

namespace Calendar

/-- Minutes in a day. -/
def dayMinutes : Int := 24 * 60

def isLeap (year : Nat) : Bool := year % 4 == 0 && (year % 100 != 0 || year % 400 == 0)

def daysIn (year month : Nat) : Nat :=
  if month = 2 then (if isLeap year then 29 else 28)
  else if month ∈ [4, 6, 9, 11] then 30
  else 31

namespace Date

def fault? (d : Date) : Option CalendarFault :=
  if d.year = 0 ∨ 9999 < d.year then some (.year d.year)
  else if d.month = 0 ∨ 12 < d.month then some .month
  else if d.day = 0 ∨ daysIn d.year d.month < d.day then some .day
  else none

/-- The days from the start of year one to the date. -/
def ordinal (d : Date) : Nat :=
  let before := d.year - 1
  before * 365 + before / 4 - before / 100 + before / 400 +
    (List.range (d.month - 1)).foldl (fun days m => days + daysIn d.year (m + 1)) 0 + (d.day - 1)

end Date

namespace Time

def fault? (t : Time) : Option CalendarFault :=
  if 24 ≤ t.hour then some .hour
  else if 60 ≤ t.minute then some .minute
  else if 60 ≤ t.second then some .second
  else none

def secondMicros : Nat := 1000000

/-- Microseconds since midnight. -/
def ordinal (t : Time) : Nat :=
  ((t.hour * 60 + t.minute) * 60 + t.second) * secondMicros + t.microsecond

end Time

/-- The microseconds that the first six digits of a fraction write. -/
def microseconds (fraction : Text) : Nat :=
  Numeral.ofDigits ((fraction ++ List.replicate 6 '0').take 6)

/-- An offset has to be shorter than a day. -/
def offsetFault? (minutes : Int) : Option CalendarFault :=
  if minutes.natAbs < dayMinutes.natAbs then none else some (.offset minutes)

def padded (width n : Nat) : Text :=
  let digits := Numeral.digits n
  List.replicate (width - digits.length) '0' ++ digits

def dateValue (d : Date) : Value :=
  .foreign .date (padded 4 d.year ++ '-' :: padded 2 d.month ++ '-' :: padded 2 d.day)

def timeValue (t : Time) : Value := .foreign .time (Numeral.digits t.ordinal)

/-- A moment. With an offset it is one instant, however it is written; without one it is a local
time. -/
def momentValue (d : Date) (t : Time) : Option Int → Value
  | none => .foreign .datetime (Numeral.digits d.ordinal ++ 'T' :: Numeral.digits t.ordinal)
  | some offset =>
    let wall : Int := d.ordinal * dayMinutes * (60 * Time.secondMicros) + t.ordinal
    .foreign .datetime (Numeral.ofInt (wall - offset * (60 * Time.secondMicros)) ++ ['Z'])

/-- A date, or a moment if there is a time. The offset is checked first, then the date, then the
time. -/
def value (d : Date) (time : Option (Time × Option Int)) : Except CalendarFault Value :=
  match time with
  | none =>
    match d.fault? with
    | some fault => .error fault
    | none => .ok (dateValue d)
  | some (t, offset) =>
    match (offset.bind offsetFault?).or (d.fault?.or t.fault?) with
    | some fault => .error fault
    | none => .ok (momentValue d t offset)

end Calendar

/-- A stretch of minutes as whole days, and the seconds after them. -/
def daysAndSeconds (minutes : Int) : String :=
  let days := minutes / Calendar.dayMinutes
  let seconds := minutes % Calendar.dayMinutes * 60
  let tail := if seconds = 0 then "" else s!", seconds={seconds}"
  s!"datetime.timedelta(days={days}{tail})"

def CalendarFault.message : CalendarFault → String
  | .year value => s!"year {value} is out of range"
  | .month => "month must be in 1..12"
  | .day => "day is out of range for month"
  | .hour => "hour must be in 0..23"
  | .minute => "minute must be in 0..59"
  | .second => "second must be in 0..59"
  | .offset minutes =>
    "offset must be a timedelta strictly between -timedelta(hours=24) and " ++
      "timedelta(hours=24), not " ++
      s!"{daysAndSeconds minutes}."

example : daysAndSeconds (-(99 * 60 + 59)) = "datetime.timedelta(days=-5, seconds=72060)" := by
  decide +kernel
example : Calendar.Date.fault? ⟨1900, 2, 29⟩ = some .day := by decide

end SqlTemplate
