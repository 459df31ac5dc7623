/-!
# Dates and Times of Day

Calendar dates, and moments: a date with a time of day and perhaps an offset
from universal time. Both are made from numbers that may be out of range, and
both have two written forms: a plain one, and one that spells out how the
value is made.

## Main definitions

* `Calendar.Refusal`: Which number is out of range.
* `Calendar.Date`, `Calendar.Moment`: Dates and moments.
* `Calendar.Date.make`, `Calendar.Moment.make`: Making them from numbers.
* `Calendar.Moment.isSame`: Whether two moments are one point in time.
-/

namespace Chip8

namespace Calendar

/-- Which number is out of range. -/
inductive Refusal where
  | year (y : Nat)
  | month
  | day
  | hour
  | minute
  | second
  /-- The offset, in minutes, is a whole day or more. -/
  | offset (minutes : Int)
  deriving DecidableEq, Repr

/-- A number with leading zeros. -/
def padded (width n : Nat) : String :=
  let ds := Nat.toDigits 10 n
  String.ofList (List.replicate (width - ds.length) '0' ++ ds)

/-- A span of minutes as it is made: whole days, rounded down, and seconds. -/
def span (minutes : Int) : String :=
  let days := minutes / 1440
  let seconds := minutes % 1440 * 60
  let parts := (if days = 0 then [] else [s!"days={days}"])
    ++ (if seconds = 0 then [] else [s!"seconds={seconds}"])
  "datetime.timedelta(" ++ (if parts.isEmpty then "0" else ", ".intercalate parts) ++ ")"

/-- The wording of a refusal. -/
def Refusal.message : Refusal → String
  | year y => s!"year {y} is out of range"
  | month => "month must be in 1..12"
  | day => "day is out of range for month"
  | hour => "hour must be in 0..23"
  | minute => "minute must be in 0..59"
  | second => "second must be in 0..59"
  | offset m =>
    "offset must be a timedelta strictly between -timedelta(hours=24) and "
      ++ s!"timedelta(hours=24), not {span m}."

/-- A calendar date. -/
structure Date where
  year : Nat
  month : Nat
  day : Nat
  deriving DecidableEq, Repr

/-- Whether February has 29 days. -/
def isLeap (y : Nat) : Bool :=
  y % 4 = 0 && (y % 100 != 0 || y % 400 = 0)

/-- The days of a month. -/
def daysIn (y m : Nat) : Nat :=
  if m = 2 then (if isLeap y then 29 else 28)
  else if m = 4 ∨ m = 6 ∨ m = 9 ∨ m = 11 then 30
  else 31

namespace Date

/-- A date from numbers. The year is looked at first. -/
def make (y m d : Nat) : Except Refusal Date :=
  if y = 0 ∨ 9999 < y then .error (.year y)
  else if m = 0 ∨ 12 < m then .error .month
  else if d = 0 ∨ daysIn y m < d then .error .day
  else .ok ⟨y, m, d⟩

/-- The number of a day, counted from the first of the year 1. -/
def ordinal (d : Date) : Nat :=
  let y := d.year - 1
  let months := (List.range (d.month - 1)).foldl (fun n m => n + daysIn d.year (m + 1)) 0
  365 * y + y / 4 - y / 100 + y / 400 + months + d.day

/-- The plain form. -/
def plain (d : Date) : String :=
  s!"{padded 4 d.year}-{padded 2 d.month}-{padded 2 d.day}"

/-- How the date is made. -/
def spelled (d : Date) : String :=
  s!"datetime.date({d.year}, {d.month}, {d.day})"

end Date

/-- A date with a time of day. -/
structure Moment where
  date : Date
  hour : Nat
  minute : Nat
  second : Nat
  micro : Nat
  /-- Minutes ahead of universal time, if an offset is known. -/
  offset : Option Int
  deriving DecidableEq, Repr

namespace Moment

/-- A moment from numbers. The offset is looked at first, then the date. -/
def make (y m d hour minute second micro : Nat) (offset : Option Int) :
    Except Refusal Moment := do
  if let some o := offset then
    if 1440 ≤ o.natAbs then throw (.offset o)
  let date ← Date.make y m d
  if 23 < hour then throw .hour
  if 59 < minute then throw .minute
  if 59 < second then throw .second
  return ⟨date, hour, minute, second, micro, offset⟩

/-- The minute of a moment in universal time, for an offset. -/
def minuteAt (offset : Int) (t : Moment) : Int :=
  1440 * t.date.ordinal + 60 * t.hour + t.minute - offset

/-- Whether two moments are one point in time. Where only one of them has an
    offset, they are not. -/
def isSame (s t : Moment) : Bool :=
  match s.offset, t.offset with
  | some a, some b =>
    s.minuteAt a == t.minuteAt b && s.second == t.second && s.micro == t.micro
  | _, _ => s == t

/-- An offset in hours and minutes. -/
def offsetText (o : Int) : String :=
  (if o < 0 then "-" else "+") ++ padded 2 (o.natAbs / 60) ++ ":" ++ padded 2 (o.natAbs % 60)

/-- The plain form. Microseconds are shown unless there are none. -/
def plain (t : Moment) : String :=
  s!"{t.date.plain} {padded 2 t.hour}:{padded 2 t.minute}:{padded 2 t.second}"
    ++ (if t.micro = 0 then "" else "." ++ padded 6 t.micro)
    ++ (t.offset.map offsetText).getD ""

/-- How the moment is made. Trailing zeros of the time are left out, the hour
    and minute apart. -/
def spelled (t : Moment) : String :=
  let small :=
    if t.micro != 0 then [t.second, t.micro] else if t.second != 0 then [t.second] else []
  let numbers := [t.date.year, t.date.month, t.date.day, t.hour, t.minute] ++ small
  let zone :=
    match t.offset with
    | none => []
    | some 0 => ["tzinfo=datetime.timezone.utc"]
    | some o => [s!"tzinfo=datetime.timezone({span o})"]
  "datetime.datetime(" ++ ", ".intercalate (numbers.map toString ++ zone) ++ ")"

end Moment

end Calendar

end Chip8
