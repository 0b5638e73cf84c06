/-
Dates as mail and web headers write them: `Wed, 21 Oct 2015 07:28:00 GMT`.

A date is read loosely. The name of the day may be missing; day and month, year
and time, and year and zone may change places; day, month and year may be joined
by dashes; a zone may hang on to the time; and a year of two digits is one from
1969 to 2068. What is read must still be a day of the calendar and a time of the
day.
-/
import ApiCommands.Calendar.DateTime
import ApiCommands.Number.Numeral
import ApiCommands.Text.Pieces

namespace ApiCommands

/-- What a text is as a date. -/
inductive DateReading where
  /-- No date. -/
  | unreadable
  /-- A date with a number too large to count with. -/
  | beyond
  /-- A point in time, in seconds since the start of 1970. -/
  | moment (seconds : Int)
  deriving DecidableEq, Repr

namespace MailDate

/-- Names of days. -/
def dayNames : List String := ["mon", "tue", "wed", "thu", "fri", "sat", "sun"]

/-- Months by their names. -/
def months : List (String × Nat) :=
  [("jan", 1), ("feb", 2), ("mar", 3), ("apr", 4), ("may", 5), ("jun", 6), ("jul", 7), ("aug", 8),
    ("sep", 9), ("oct", 10), ("nov", 11), ("dec", 12), ("january", 1), ("february", 2),
    ("march", 3), ("april", 4), ("june", 6), ("july", 7), ("august", 8), ("september", 9),
    ("october", 10), ("november", 11), ("december", 12)]

/-- Zones by their names, as hours and minutes in one number. -/
def zones : List (String × Int) :=
  [("UT", 0), ("UTC", 0), ("GMT", 0), ("Z", 0), ("AST", -400), ("ADT", -300), ("EST", -500),
    ("EDT", -400), ("CST", -600), ("CDT", -500), ("MST", -700), ("MDT", -600), ("PST", -800),
    ("PDT", -700)]

/-- The text without a comma at its end. -/
def dropComma (s : List Char) : List Char :=
  if [','].isSuffixOf s then s.dropLast else s

/-- What follows the last comma. -/
def afterLastComma (s : List Char) : List Char := (s.reverse.takeWhile (· != ',')).reverse

/-- The words of a date without the name of the day. -/
def dropDayName : List (List Char) → List (List Char)
  | [] => []
  | first :: rest =>
    if [','].isSuffixOf first || dayNames.contains (String.ofList (Text.lower first)) then rest
    else afterLastComma first :: rest

/-- A day, a month and a year joined by dashes, taken apart. -/
def splitDay : List (List Char) → List (List Char)
  | [day, time, zone] =>
    match Text.splitOn '-' day with
    | [d, m, y] => [d, m, y, time, zone]
    | _ => [day, time, zone]
  | words => words

/-- A time with its zone, taken apart at `sign` if something stands before it. -/
def cutZone? (sign : Char) (s : List Char) : Option (List Char × List Char) :=
  let time := s.takeWhile (· != sign)
  if time.length < s.length then some (time, s.drop time.length) else none

/-- The words of a date with a zone, which may be empty. -/
def splitZone : List (List Char) → List (List Char)
  | [d, m, y, time] =>
    match (cutZone? '+' time).orElse fun _ => cutZone? '-' time with
    | some (c :: cs, zone) => [d, m, y, c :: cs, zone]
    | _ => [d, m, y, time, []]
  | words => words

/-- The month of a name in lower case. -/
def monthOf? (name : List Char) : Option Nat := months.lookup (String.ofList name)

/-- The day as it is written, and the month, in either order. -/
def dayAndMonth? (day month : List Char) : Option (List Char × Nat) :=
  match monthOf? (Text.lower month) with
  | some m => some (day, m)
  | none => (monthOf? (Text.lower day)).map fun m => (Text.lower month, m)

/-- Hour, minute and second as they are written. -/
def clockParts? (s : List Char) : Option (List Char × List Char × List Char) :=
  match Text.splitOn ':' s with
  | [h, m] => some (h, m, ['0'])
  | [h, m, s] => some (h, m, s)
  | [whole] =>
    match Text.splitOn '.' whole with
    | [h, m] => some (h, m, ['0'])
    | [h, m, s] => some (h, m, s)
    | _ => none
  | _ => none

/-- A year of two digits is one from 1969 to 2068. -/
def fullYear (year : Int) : Int :=
  if 100 ≤ year then year else if 68 < year then year + 1900 else year + 2000

/-- The distance of a zone from universal time, in seconds. A zone nobody knows is universal
time. -/
def zoneSeconds (zone : List Char) : Int :=
  let name := Text.upper zone
  let hoursAndMinutes := ((zones.lookup (String.ofList name)).orElse fun _ =>
    Numeral.readInteger? name).getD 0
  let size := hoursAndMinutes.natAbs
  let seconds : Int := size / 100 * 3600 + size % 100 * 60
  if hoursAndMinutes < 0 then -seconds else seconds

/-- A number that fits into 32 bits. -/
def isWord (n : Int) : Bool := decide (-2147483648 ≤ n) && decide (n < 2147483648)

/-- The point in time of a day, a time of the day and a zone. -/
def momentOf (year month day hour minute second zone : Int) : DateReading :=
  let days := zone / 86400
  if days < -999999999 ∨ 999999999 < days then .beyond
  else if zone ≤ -86400 ∨ 86400 ≤ zone then .unreadable
  else if !([year, month, day, hour, minute, second].all isWord) then .beyond
  else if 1 ≤ year ∧ year ≤ 9999 ∧ 1 ≤ day ∧
      Calendar.isDay year.toNat month.toNat day.toNat ∧
      0 ≤ hour ∧ hour < 24 ∧ 0 ≤ minute ∧ minute < 60 ∧ 0 ≤ second ∧ second < 60 then
    .moment (86400 * Calendar.dayNumber year.toNat month.toNat day.toNat
      + 3600 * hour + 60 * minute + second - zone)
  else .unreadable

/-- The point in time of the five words of a date. -/
def ofWords (day month year time zone : List Char) : DateReading :=
  if day.isEmpty || month.isEmpty || year.isEmpty then .unreadable
  else
    match dayAndMonth? day month with
    | none => .unreadable
    | some (day, month) =>
      let day := dropComma day
      let (year, time) :=
        if year.contains ':' && year.head? != some ':' then (time, year) else (year, time)
      let year := dropComma year
      let (year, zone) := if (year.head?.map Text.isDigitLike).getD true then (year, zone)
        else (zone, year)
      match clockParts? (dropComma time) with
      | none => .unreadable
      | some (hour, minute, second) =>
        match Numeral.readInteger? year, Numeral.readInteger? day, Numeral.readInteger? hour,
          Numeral.readInteger? minute, Numeral.readInteger? second with
        | some year, some day, some hour, some minute, some second =>
          momentOf (fullYear year) month day hour minute second (zoneSeconds zone)
        | _, _, _, _, _ => .unreadable

/-- What a text is as a date. -/
def read (s : List Char) : DateReading :=
  match splitZone (splitDay (dropDayName (Text.runsWithout Text.isBlankChar s))) with
  | day :: month :: year :: time :: zone :: _ => ofWords day month year time zone
  | _ => .unreadable

end MailDate

end ApiCommands
