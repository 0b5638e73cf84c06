/-
Days of the calendar, dates, and points in time.

The rules for leap years hold for all years from 1 on, also those before the
calendar was made. `dayNumber` counts days from the first day of 1970, so that
the distance of two days is a difference.

A point in time is a date and a time of its day. It may say how far its clock is
ahead of universal time; two points that both say so are the same when they are
the same instant, whatever their clocks show.
-/

namespace ApiCommands.Calendar

/-- A year with 29 February. -/
def isLeapYear (year : Nat) : Bool :=
  year % 4 == 0 && (year % 100 != 0 || year % 400 == 0)

/-- How many days a month has. -/
def daysIn (year month : Nat) : Nat :=
  if month = 2 then (if isLeapYear year then 29 else 28)
  else if [4, 6, 9, 11].contains month then 30
  else 31

/-- A day of the calendar. -/
def isDay (year month day : Nat) : Bool :=
  decide (1 ≤ year) && decide (1 ≤ month) && decide (month ≤ 12) && decide (1 ≤ day) &&
    decide (day ≤ daysIn year month)

/-- How many days the years before `year` have. -/
def daysBeforeYear (year : Nat) : Nat :=
  let years := year - 1
  365 * years + years / 4 - years / 100 + years / 400

/-- How many days the months of a year before `month` have. -/
def daysBeforeMonth (year month : Nat) : Nat :=
  ((List.range (month - 1)).map fun m => daysIn year (m + 1)).foldl (· + ·) 0

/-- Days since the first day of 1970. -/
def dayNumber (year month day : Nat) : Int :=
  daysBeforeYear year + daysBeforeMonth year month + day - 719163

/-- The year a day is in. The guess from the mean length of a year is at most one year off. -/
def yearOf (day : Nat) : Nat :=
  let guess := 1970 + day * 400 / 146097
  if day < dayNumber guess 1 1 then guess - 1
  else if dayNumber (guess + 1) 1 1 ≤ day then guess + 1
  else guess

/-- Year, month and day of a day from the first day of 1970 on. -/
def dateOf (day : Nat) : Nat × Nat × Nat :=
  let year := yearOf day
  let rest := day - (dayNumber year 1 1).toNat
  let month := ((List.range 12).filter fun m => daysBeforeMonth year (m + 1) ≤ rest).length
  (year, month, rest - daysBeforeMonth year month + 1)

/-- A number with zeros in front, up to `width` digits. -/
def padded (width n : Nat) : String :=
  let digits := Nat.toDigits 10 n
  String.ofList (List.replicate (width - digits.length) '0' ++ digits)

/-- The stamp of a number of seconds since the start of 1970. -/
def stamp (seconds : Nat) : String :=
  let (year, month, day) := dateOf (seconds / 86400)
  let rest := seconds % 86400
  padded 4 year ++ padded 2 month ++ padded 2 day ++ "-"
    ++ padded 2 (rest / 3600) ++ padded 2 (rest / 60 % 60) ++ padded 2 (rest % 60)

/-- A date. -/
structure Date where
  year : Nat
  month : Nat
  day : Nat
  deriving DecidableEq, Repr, Inhabited

/-- A date and a time of its day. -/
structure DateTime where
  date : Date
  hour : Nat
  minute : Nat
  second : Nat
  microsecond : Nat
  /-- How many minutes the clock is ahead of universal time, if that is known. -/
  offset? : Option Int
  deriving DecidableEq, Repr, Inhabited

namespace Date

/-- The date is a day of the calendar, in a year of at most four digits. -/
def isReal (d : Date) : Bool := isDay d.year d.month d.day && decide (d.year ≤ 9999)

/-- Year, month and day, joined by dashes. -/
def iso (d : Date) : String := padded 4 d.year ++ "-" ++ padded 2 d.month ++ "-" ++ padded 2 d.day

end Date

namespace DateTime

/-- The date is real, the time is one of its day, and the clock is less than a day off. -/
def isReal (t : DateTime) : Bool :=
  t.date.isReal && decide (t.hour < 24) && decide (t.minute < 60) && decide (t.second < 60) &&
    decide (t.microsecond < 1000000) && t.offset?.all fun n => decide (n.natAbs < 1440)

/-- How far a clock is ahead, in hours and minutes. -/
def offsetText (minutes : Int) : String :=
  (if minutes < 0 then "-" else "+") ++ padded 2 (minutes.natAbs / 60) ++ ":"
    ++ padded 2 (minutes.natAbs % 60)

/-- Date and time with `separator` between them; fractions of a second only if there are any. -/
def text (separator : String) (t : DateTime) : String :=
  t.date.iso ++ separator ++ padded 2 t.hour ++ ":" ++ padded 2 t.minute ++ ":"
    ++ padded 2 t.second ++ (if t.microsecond = 0 then "" else "." ++ padded 6 t.microsecond)
    ++ (t.offset?.map offsetText).getD ""

/-- Date and time as the standard for dates writes them. -/
def iso : DateTime → String := text "T"

/-- Millionths of a second since the start of 1970, by a clock so many minutes ahead. -/
def instant (t : DateTime) (offset : Int) : Int :=
  1000000 * (86400 * dayNumber t.date.year t.date.month t.date.day + 3600 * t.hour + 60 * t.minute
    + t.second - 60 * offset) + t.microsecond

/-- The two are one point in time. -/
def isSame (s t : DateTime) : Bool :=
  match s.offset?, t.offset? with
  | some m, some n => s.instant m == t.instant n
  | _, _ => decide (s = t)

theorem isSame_self (t : DateTime) : t.isSame t = true := by
  unfold isSame
  split
  · simp_all
  · simp

end DateTime

end ApiCommands.Calendar
