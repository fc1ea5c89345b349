import SeriesQuery.Calendar.Timestamp
import SeriesQuery.Decimal.Text
import SeriesQuery.Query.Tree

/-!
# Tables

* `planTable` : the requests of a plan, one a line;
* `outputTable` : the series that a query gives, values with two places.
-/

namespace SeriesQuery.CommandLine

open Calendar (timestampText)

/-- At least `width` characters, blanks in front. -/
def alignRight (width : Nat) (s : String) : String := String.ofList (s.toList.leftpad width ' ')

/-- At least `width` characters, blanks behind. -/
def alignLeft (width : Nat) (s : String) : String := String.ofList (s.toList.rightpad width ' ')

/-- Steps are shown in whole seconds. -/
def planLine (number : Nat) (q : ScanQuery) : String :=
  alignRight 3 (toString number) ++ "  " ++ alignLeft 24 q.target ++ " " ++
    timestampText q.window.start ++ " .. " ++ timestampText q.window.stop ++ "  step " ++
    toString (q.window.step.tdiv Time.second) ++ "s\n"

def planTable (qs : List ScanQuery) : String :=
  if qs.isEmpty then "No scans needed\n"
  else String.join (qs.zipIdx.map fun (q, i) => planLine (i + 1) q)

def pointLine (p : Point Float) : String :=
  "  " ++ alignLeft 22 (timestampText p.time) ++ " | " ++ fixedText 2 p.value ++ "\n"

def seriesTable (o : Output Float) : String :=
  o.series.event ++ " [" ++ o.kind ++ "] " ++ o.series.fields.text ++ "\n" ++
    String.ofList (List.replicate 36 '-') ++ "\n" ++
    String.join (o.series.points.toList.map pointLine) ++ "\n"

def outputTable (os : List (Output Float)) : String :=
  if os.isEmpty then "No data for the selected time range\n"
  else String.join (os.map seriesTable)

end SeriesQuery.CommandLine
