/-!
# Moments in time

A `Date` is a day of the calendar that counts leap years back and forward without end, a `Moment`
a date and a time of day in UTC. A leap second is second 60 of its minute. `Moment.text` is the
form in which moments are stored: its texts for the years 0000 to 9999 are ordered as the moments.
-/

namespace RecordFilter.Time

structure Date where
  year : Int
  month : Nat
  day : Nat
deriving DecidableEq, Repr, Inhabited

namespace Date

def isLeapYear (y : Int) : Bool := y % 4 == 0 && (y % 100 != 0 || y % 400 == 0)

def daysIn (year : Int) (month : Nat) : Nat :=
  match month with
  | 2 => if isLeapYear year then 29 else 28
  | 4 | 6 | 9 | 11 => 30
  | _ => 31

def inRange (year : Int) : Bool := -262143 ≤ year && year ≤ 262142

def of? (year : Int) (month day : Nat) : Option Date :=
  if inRange year && 1 ≤ month && month ≤ 12 && 1 ≤ day && day ≤ daysIn year month then
    some ⟨year, month, day⟩
  else none

def next (d : Date) : Date :=
  if d.day < daysIn d.year d.month then ⟨d.year, d.month, d.day + 1⟩
  else if d.month < 12 then ⟨d.year, d.month + 1, 1⟩
  else ⟨d.year + 1, 1, 1⟩

def previous (d : Date) : Date :=
  if 1 < d.day then ⟨d.year, d.month, d.day - 1⟩
  else if 1 < d.month then ⟨d.year, d.month - 1, daysIn d.year (d.month - 1)⟩
  else ⟨d.year - 1, 12, 31⟩

end Date

structure Moment where
  date : Date
  hour : Nat
  minute : Nat
  /-- The second of the minute; 60 is a leap second. -/
  second : Nat
  nanosecond : Nat
deriving DecidableEq, Repr, Inhabited

def padded (width n : Nat) : List Char :=
  let digits := Nat.toDigits 10 n
  List.replicate (width - digits.length) '0' ++ digits

namespace Moment

/-- The moment whose local time this is, at an offset of less than a day east of UTC. -/
def toUtc (m : Moment) (eastMinutes : Int) : Moment :=
  let minutes : Int := (m.hour * 60 + m.minute : Nat) - eastMinutes
  if minutes < 0 then
    let t := (minutes + 1440).toNat
    { m with date := m.date.previous, hour := t / 60, minute := t % 60 }
  else if 1440 ≤ minutes then
    let t := (minutes - 1440).toNat
    { m with date := m.date.next, hour := t / 60, minute := t % 60 }
  else
    let t := minutes.toNat
    { m with hour := t / 60, minute := t % 60 }

/-- A year in four digits; years beyond carry a sign. -/
def yearText (y : Int) : List Char :=
  if 0 ≤ y ∧ y ≤ 9999 then padded 4 y.toNat
  else if 0 ≤ y then '+' :: padded 4 y.toNat
  else '-' :: padded 4 y.natAbs

/-- The stored form: date and time of day to the millisecond, in UTC. -/
def text (m : Moment) : List Char :=
  yearText m.date.year ++ '-' :: padded 2 m.date.month ++ '-' :: padded 2 m.date.day ++
    ' ' :: padded 2 m.hour ++ ':' :: padded 2 m.minute ++ ':' :: padded 2 m.second ++
    '.' :: padded 3 (m.nanosecond / 1000000) ++ ['Z']

end Moment

end RecordFilter.Time
