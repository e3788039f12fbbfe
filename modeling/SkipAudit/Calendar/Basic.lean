/-
The calendar: moments as seconds since the beginning of 1970, and as dates with a time of day.

The rules of leap years are taken to hold at all times, and every day has 86400 seconds.
-/

namespace SkipAudit

/-- A date with a time of day. -/
structure Civil where
  year : Int
  /-- From one. -/
  month : Nat
  /-- From one. -/
  day : Nat
  hour : Nat
  minute : Nat
  second : Nat
deriving DecidableEq, Repr

namespace Civil

/-- The seconds of a day. -/
def daySeconds : Nat := 86400

/-- The year has a leap day. -/
def isLeap (year : Int) : Bool :=
  (year % 4 == 0 && year % 100 != 0) || year % 400 == 0

/-- The days in front of each month of a year. -/
def daysBefore (year : Int) (month : Nat) : Nat :=
  let leap := if isLeap year && 2 < month then 1 else 0
  ([0, 31, 59, 90, 120, 151, 181, 212, 243, 273, 304, 334][month - 1]?).getD 0 + leap

/-- The days of a month. -/
def monthLength (year : Int) (month : Nat) : Nat :=
  if month = 2 then (if isLeap year then 29 else 28)
  else if month = 4 ∨ month = 6 ∨ month = 9 ∨ month = 11 then 30 else 31

/-- The days from the beginning of 1970 to the beginning of a year. -/
def daysToYear (year : Int) : Int :=
  let y := year - 1
  365 * (year - 1970) + (y / 4 - y / 100 + y / 400) - (1969 / 4 - 1969 / 100 + 1969 / 400)

/-- The number of a day since the beginning of 1970, which may lie outside its month. -/
def dayNumber (year : Int) (month : Nat) (day : Int) : Int :=
  daysToYear year + daysBefore year month + day - 1

/-- The day of the year, from zero. -/
def dayOfYear (c : Civil) : Nat := daysBefore c.year c.month + c.day - 1

/-- The year in which a day lies. -/
def yearOfDay (n : Int) : Int :=
  let guess := 1970 + n / 366
  let rec go : Nat → Int → Int
    | 0, y => y
    | fuel + 1, y => if daysToYear (y + 1) ≤ n then go fuel (y + 1) else y
  let low := if n < 0 then 1970 + n / 365 - 1 else guess
  go (n.natAbs / 100000 + 4) low

/-- The month and the day of the month of a day of a year, counted from zero. -/
def monthOfDay (year : Int) (n : Nat) : Nat × Nat :=
  let month := ((List.range 12).map (· + 1)).reverse.find? fun m => daysBefore year m ≤ n
  let m := month.getD 1
  (m, n - daysBefore year m + 1)

/-- The date and the time of day at a moment. -/
def ofSeconds (s : Int) : Civil :=
  let n := s / daySeconds
  let rest := (s % daySeconds).toNat
  let year := yearOfDay n
  let (month, day) := monthOfDay year (n - daysToYear year).toNat
  ⟨year, month, day, rest / 3600, rest / 60 % 60, rest % 60⟩

/-- The moment of a date and a time of day. -/
def seconds (c : Civil) : Int :=
  dayNumber c.year c.month c.day * daySeconds + (c.hour * 3600 + c.minute * 60 + c.second : Nat)

/-- The day of the week, from zero for a Sunday. -/
def weekday (c : Civil) : Nat := ((dayNumber c.year c.month c.day + 4) % 7).toNat

/-- The week of the year and the year to which it belongs, where a week begins on a Monday and
belongs to the year that has most of its days. -/
def isoWeek (c : Civil) : Nat × Int :=
  let n := dayNumber c.year c.month c.day
  let thursday := n - ((c.weekday + 6) % 7 : Nat) + 3
  let year := yearOfDay thursday
  ((thursday - daysToYear year).toNat / 7 + 1, year)

/-- The date exists. -/
def isValid (c : Civil) : Bool :=
  1 ≤ c.month && c.month ≤ 12 && 1 ≤ c.day && c.day ≤ monthLength c.year c.month &&
    c.hour < 24 && c.minute < 60 && c.second < 60

/-- A date with so many months added, and with days that may lie outside the month, as the number
of a day. -/
def shifted (year month day : Int) : Int :=
  let m := month - 1
  dayNumber (year + m / 12) ((m % 12).toNat + 1) day

end Civil

end SkipAudit
