import SeriesQuery.Calendar.Basic
import SeriesQuery.Text.Digits
import SeriesQuery.Text.Parser
import SeriesQuery.Window

/-!
# Times as text

* `date`, `timeOfDay`, `offset` : the parts of a written time;
* `readTimestamp? s` : `s` as a date, a time of day and an offset from UTC, in milliseconds;
* `timestampText t` : the same in UTC, without fractions of a second.
-/

namespace SeriesQuery.Calendar

open SeriesQuery.Parser

/-! ## Reading -/

/-- A number of exactly `count` digits. -/
def digitsOf (count : Nat) : Parser Nat := fun s =>
  let ds := s.take count
  if ds.length = count ∧ ds.all Char.isDigit then .done (natOfDigits ds) (s.drop count)
  else .refused s

def twoDigitsUpTo (greatest : Nat) : Parser Nat :=
  filterMap (fun n => if n ≤ greatest then some n else none) (digitsOf 2)

def date : Parser Date :=
  filterMap (fun (d : Date) => if d.isValid then some d else none) do
    let year ← digitsOf 4
    let _ ← char '-'
    let month ← digitsOf 2
    let _ ← char '-'
    let day ← digitsOf 2
    return ⟨year, month, day⟩

/-- The first three digits of a fraction of a second, zeros standing in for missing ones. -/
def millisecondsOf (fraction : List Char) : Nat := natOfDigits ((fraction ++ ['0', '0']).take 3)

/-- In milliseconds. Second 60, a leap second, is the one after second 59. -/
def timeOfDay : Parser Int := do
  let hour ← twoDigitsUpTo 23
  let _ ← char ':'
  let minute ← twoDigitsUpTo 59
  let _ ← char ':'
  let second ← twoDigitsUpTo 60
  let fraction ← optional (do let _ ← char '.'; digits)
  return hour * Time.hour + minute * Time.minute + second * Time.second +
    (fraction.map millisecondsOf).getD 0

/-- How far local time is ahead of UTC, in milliseconds. -/
def offset (minus : List Char) : Parser Int :=
  (do let _ ← oneOf ['Z', 'z']; return 0) <|> do
    let sign ← oneOf ('+' :: minus)
    let hour ← twoDigitsUpTo 23
    let _ ← char ':'
    let minute ← twoDigitsUpTo 59
    let ahead := hour * Time.hour + minute * Time.minute
    return if sign = '+' then ahead else -ahead

/-- Hyphen-minus, and the minus sign proper. -/
def minusSigns : List Char := ['-', '−']

def timestamp : Parser Int := do
  let d ← date
  let _ ← oneOf ['T', 't', ' ']
  let t ← timeOfDay
  let ahead ← offset minusSigns
  return d.dayNumber * Time.day + t - ahead

def readTimestamp? (s : String) : Option Int :=
  match timestamp s.toList with
  | .done t [] => some t
  | _ => none

/-! ## Writing -/

def padded (width n : Nat) : List Char := (Nat.toDigits 10 n).leftpad width '0'

/-- Four digits; years beyond them, and those before year zero, carry a sign. -/
def yearText (year : Int) : List Char :=
  if 0 ≤ year ∧ year ≤ 9999 then padded 4 year.toNat
  else (if year < 0 then '-' else '+') :: padded 4 year.natAbs

def firstYear : Int := -262143
def lastYear : Int := 262142

/-- Times outside the years above are written as numbers. -/
def timestampText (t : Int) : String :=
  let d := Date.ofDayNumber (t / Time.day)
  let seconds := (t % Time.day / Time.second).toNat
  if d.year < firstYear ∨ lastYear < d.year then toString t
  else String.ofList (yearText d.year ++ ['-'] ++ padded 2 d.month ++ ['-'] ++ padded 2 d.day ++
    ['T'] ++ padded 2 (seconds / 3600) ++ [':'] ++ padded 2 (seconds / 60 % 60) ++ [':'] ++
    padded 2 (seconds % 60) ++ ['Z'])

end SeriesQuery.Calendar
