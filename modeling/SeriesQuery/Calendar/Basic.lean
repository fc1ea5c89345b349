/-!
# The calendar

Dates of the Gregorian calendar, extended over all years, and days counted from 1970-01-01.

* `isLeapYear`, `monthLengths`, `Date.isValid` : which dates there are;
* `Date.dayNumber` : the day of a date;
* `Date.ofDayNumber` : the date of a day, found by whole cycles of 400, 100, 4 and 1 years.
-/

namespace SeriesQuery.Calendar

structure Date where
  year : Int
  month : Nat
  day : Nat
deriving DecidableEq, Repr

def isLeapYear (year : Int) : Bool := year % 4 == 0 && (year % 100 != 0 || year % 400 == 0)

def monthLengths (year : Int) : List Nat :=
  [31, if isLeapYear year then 29 else 28, 31, 30, 31, 30, 31, 31, 30, 31, 30, 31]

namespace Date

def isValid (d : Date) : Bool :=
  1 ≤ d.month && 1 ≤ d.day && d.day ≤ (monthLengths d.year)[d.month - 1]?.getD 0

/-! ## Days of dates -/

/-- Days from the first day of year one up to that of `year`. -/
def daysBeforeYear (year : Int) : Int :=
  let years := year - 1
  365 * years + years / 4 - years / 100 + years / 400

/-- The day that counts as zero, from the first day of year one. -/
def dayZero : Int := daysBeforeYear 1970

def dayNumber (d : Date) : Int :=
  let monthsBefore := (monthLengths d.year).take (d.month - 1)
  daysBeforeYear d.year + (monthsBefore.foldl (· + ·) 0 : Nat) + (d.day - 1) - dayZero

/-! ## Dates of days -/

/-- Month and day of the `n`-th day, counted from zero, behind the months before `month`. -/
def splitMonths (month : Nat) : List Nat → Nat → Nat × Nat
  | [], n => (month, n + 1)
  | length :: lengths, n =>
    if n < length then (month, n + 1) else splitMonths (month + 1) lengths (n - length)

def daysOf400Years : Nat := 146097
def daysOf100Years : Nat := 36524
def daysOf4Years : Nat := 1461

/-- The last day of a leap cycle belongs to its last year, hence the bounds on the quotients. -/
def ofDayNumber (n : Int) : Date :=
  let n := n + dayZero
  let within := (n % daysOf400Years).toNat
  let centuries := min (within / daysOf100Years) 3
  let within := within - centuries * daysOf100Years
  let cycles := within / daysOf4Years
  let within := within % daysOf4Years
  let years := min (within / 365) 3
  let year := 400 * (n / daysOf400Years) + 100 * centuries + 4 * cycles + years + 1
  let (month, day) := splitMonths 1 (monthLengths year) (within - years * 365)
  { year, month, day }

end Date

end SeriesQuery.Calendar
