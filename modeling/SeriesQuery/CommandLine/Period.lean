import SeriesQuery.Calendar.Timestamp
import SeriesQuery.Text.Case
import SeriesQuery.Text.Class

/-!
# The window of a command

* `readDuration s` : a count and a unit, such as `90m`;
* `readTime now s` : the word now, a calendar time or milliseconds;
* `Period` : the texts that describe a window, `Period.window now`;
* `PeriodError` : what can be wrong with them.
-/

namespace SeriesQuery.CommandLine

inductive PeriodError where
  | emptyDuration
  | unknownUnit (duration : String)
  | notACount (duration : String)
  | durationOutOfRange (duration : String)
  | stepNotPositive (step : String)
  | notATime (time : String)
  | startOutOfRange
  | emptyWindow
deriving DecidableEq, Repr

def PeriodError.message : PeriodError → String
  | .emptyDuration => "Empty duration"
  | .unknownUnit d => "Invalid duration format: " ++ d ++ ". Use: 30s, 15m, 2h, 7d, 1w"
  | .notACount d => "Invalid duration format: " ++ d
  | .durationOutOfRange d => "Duration out of range: " ++ d
  | .stepNotPositive s => "Step must be positive: " ++ s
  | .notATime t => "Invalid timestamp format: " ++ t
  | .startOutOfRange => "Window start out of range"
  | .emptyWindow => "Window start must be before end"

/-! ## Durations and times -/

def unit? : Char → Option Int
  | 's' => some Time.second
  | 'm' => some Time.minute
  | 'h' => some Time.hour
  | 'd' => some Time.day
  | 'w' => some Time.week
  | _ => none

def trim (cs : List Char) : List Char :=
  ((cs.dropWhile Text.isBlank).reverse.dropWhile Text.isBlank).reverse

/-- An integer within 64 bits. -/
def readCount? (cs : List Char) : Option Int := (readInt? cs).bind Time.checked?

/-- In milliseconds. A unit alone counts once. -/
def readDuration (s : String) : Except PeriodError Int :=
  let s := Text.lower (String.ofList (trim s.toList))
  match s.toList.getLast? with
  | none => .error .emptyDuration
  | some letter =>
    match unit? letter with
    | none => .error (.unknownUnit s)
    | some unit => do
      let digits := s.toList.dropLast
      let count ← if digits.isEmpty then .ok 1 else
        match readCount? digits with
        | some n => .ok n
        | none => .error (.notACount s)
      match Time.checked? (count * unit) with
      | some t => .ok t
      | none => .error (.durationOutOfRange s)

def readTime (now : Int) (s : String) : Except PeriodError Int :=
  if s = "now" then .ok now
  else match Calendar.readTimestamp? s with
    | some t => .ok t
    | none =>
      match readCount? s.toList with
      | some t => .ok t
      | none => .error (.notATime s)

/-! ## Windows -/

structure Period where
  /-- If absent, the window begins its length before the end. -/
  start : Option String
  stop : String
  length : String
  step : String
deriving DecidableEq, Repr

namespace Period

/-- A window that ends now includes the step that has begun. -/
def stopTime (p : Period) (now step : Int) : Except PeriodError Int :=
  if p.stop = "now" then .ok (Time.floorTo step now + step) else readTime now p.stop

def startTime (p : Period) (now stop : Int) : Except PeriodError Int :=
  match p.start with
  | some s => readTime now s
  | none => do
    match Time.checked? (stop - (← readDuration p.length)) with
    | some t => .ok t
    | none => .error .startOutOfRange

def window (p : Period) (now : Int) : Except PeriodError Window := do
  let step ← readDuration p.step
  if step ≤ 0 then throw (.stepNotPositive p.step)
  let stop ← p.stopTime now step
  let start ← p.startTime now stop
  if stop ≤ start then throw .emptyWindow
  return { start, stop, step }

end Period

end SeriesQuery.CommandLine
