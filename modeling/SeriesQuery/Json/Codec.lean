import SeriesQuery.Json.Reader
import SeriesQuery.Query.Report
import SeriesQuery.Store

/-!
# Data as JSON

* `Json.member?`, `Json.members?` : the members of a record. It is an object with each member once,
  other keys being passed over, or an array of the members in order;
* `encode` and `decode?` of the types that are stored or exchanged: windows, fields, points, series,
  results, snapshots, reductions and mergers;
* `Record.decode?` : collected points are only read;
* `ScanQuery.encode`, `Output.encode`, `QueryReport.encode` : answers are only written.
-/

namespace SeriesQuery

/-! ## Records -/

namespace Json

def toText? : Json → Option String
  | .string s => s
  | _ => none

def toArray? : Json → Option (List Json)
  | .array items => some items
  | _ => none

def toList? (decode? : Json → Option β) (j : Json) : Option (List β) := do
  (← j.toArray?).mapM decode?

/-- The entries under a key. -/
def valuesAt (key : String) (entries : List (Option String × Json)) : List Json :=
  (entries.filter (·.1 = some key)).map (·.2)

/-- One entry under the key, or none. -/
def member? (key : String) (entries : List (Option String × Json)) : Option (Option Json) :=
  match valuesAt key entries with
  | [] => some none
  | [j] => some (some j)
  | _ => none

/-- The members of a record by name. No entry may be repeated and no key may be broken. -/
def members? (names : List String) : Json → Option (List (Option Json))
  | .object entries =>
    if entries.any (·.1.isNone) then none else names.mapM (member? · entries)
  | .array items => if items.length = names.length then some (items.map some) else none
  | _ => none

/-- The member that every record has. -/
def required? (decode? : Json → Option β) (m : Option Json) : Option β := m.bind decode?

end Json

open Json (required? members? record)

/-! ## Windows, fields and points -/

def Window.encode (w : Window) : Json :=
  record [("start", .int w.start), ("end", .int w.stop), ("step", .int w.step)]

def Window.decode? (j : Json) : Option Window := do
  match ← members? ["start", "end", "step"] j with
  | [start, stop, step] =>
    return ⟨← required? Json.toInt? start, ← required? Json.toInt? stop,
      ← required? Json.toInt? step⟩
  | _ => none

def Field.encode (f : Field) : Json := record [("label", .text f.label), ("value", .text f.value)]

def Field.decode? (j : Json) : Option Field := do
  match ← members? ["label", "value"] j with
  | [label, value] => return ⟨← required? Json.toText? label, ← required? Json.toText? value⟩
  | _ => none

def Fields.encode (fs : Fields) : Json := .array (fs.toList.map Field.encode)

def Fields.decode? (j : Json) : Option Fields := Fields.mk <$> j.toList? Field.decode?

def Point.encode (p : Point Float) : Json :=
  record [("timestamp", .int p.time), ("value", .float p.value)]

def Point.decode? (j : Json) : Option (Point Float) := do
  match ← members? ["timestamp", "value"] j with
  | [time, value] => return ⟨← required? Json.toInt? time, ← required? Json.toFloat? value⟩
  | _ => none

def Points.encode (ps : Points Float) : Json := .array (ps.toList.map Point.encode)

def Points.decode? (j : Json) : Option (Points Float) := Points.mk <$> j.toList? Point.decode?

/-! ## Series -/

def Series.encode (s : Series Float) : Json :=
  record [("event", .text s.event), ("fields", s.fields.encode), ("range", s.window.encode),
    ("data", s.points.encode)]

def Series.decode? (j : Json) : Option (Series Float) := do
  match ← members? ["event", "fields", "range", "data"] j with
  | [event, fields, window, points] =>
    return ⟨← required? Json.toText? event, ← required? Fields.decode? fields,
      ← required? Window.decode? window, ← required? Points.decode? points⟩
  | _ => none

def Results.encode (rs : Results Float) : Json := .array (rs.toList.map Series.encode)

def Results.decode? (j : Json) : Option (Results Float) := Results.mk <$> j.toList? Series.decode?

/-! ## Snapshots and records -/

def Counter.encode (c : Counter) : Json :=
  record [("values", .texts c.values), ("count", .int c.count)]

def Counter.decode? (j : Json) : Option Counter := do
  match ← members? ["values", "count"] j with
  | [values, count] =>
    return ⟨← required? (Json.toList? Json.toText?) values, ← required? Json.toInt? count⟩
  | _ => none

def Snapshot.encode (s : Snapshot) : Json :=
  record [("time", .int s.time), ("labels", .texts s.labels),
    ("counters", .array (s.counters.map Counter.encode))]

def Snapshot.decode? (j : Json) : Option Snapshot := do
  match ← members? ["time", "labels", "counters"] j with
  | [time, labels, counters] =>
    return ⟨← required? Json.toInt? time, ← required? (Json.toList? Json.toText?) labels,
      ← required? (Json.toList? Counter.decode?) counters⟩
  | _ => none

/-- An object of texts; of several entries for one label the last one counts. -/
def decodeLabels? : Json → Option (Index String)
  | .object entries => do
    return .ofList (← entries.mapM fun (key, value) => do return (← key, ← value.toText?))
  | _ => none

/-- Fields may be left out. -/
def Record.decode? (j : Json) : Option (Record Float) := do
  match ← members? ["event", "fields", "timestamp", "value"] j with
  | [event, fields, time, value] =>
    return ⟨← required? Json.toText? event,
      ← (match fields with | some fields => decodeLabels? fields | none => some .empty),
      ← required? Json.toInt? time, ← required? Json.toFloat? value⟩
  | _ => none

/-! ## Names -/

/-- A name, or an object with the name as its only key and null under it. -/
def decodeName? : Json → Option String
  | .string name => name
  | .object [(name, .null)] => name
  | _ => none

def Reduction.encode (f : Reduction) : Json := .text f.name

def Reduction.decode? (j : Json) : Option Reduction := do ofExactName? (← decodeName? j)

def Merger.encode (f : Merger) : Json := .text f.name

def Merger.decode? (j : Json) : Option Merger := do ofName? (← decodeName? j)

/-! ## Requests and answers -/

/-- The conditions of a filter in query syntax. -/
def Filter.encode (f : Filter) : Json :=
  record (f.conditions.toList.map fun (label, m) => (label, .text m.text))

def ScanQuery.encode (q : ScanQuery) : Json :=
  record [("range", q.window.encode), ("event", .text q.event), ("matcher", q.filter.encode)]

def Output.encode (o : Output Float) : Json :=
  record [("kind", .text o.kind), ("series", o.series.encode)]

/-- With the time that the query took. -/
def QueryReport.encode (r : QueryReport Float) (elapsed : Nat) : Json :=
  record [("outputs", .array (r.outputs.map Output.encode)), ("scan_queries", .nat r.scanQueries),
    ("series_scanned", .nat r.seriesScanned), ("execution_time_ms", .nat elapsed)]

end SeriesQuery
