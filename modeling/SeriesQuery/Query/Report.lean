import SeriesQuery.Query.Resolve

/-!
# Running queries

* `QueryOptions` : what can be set about planning and grouping;
* `Query.plan` : the requests for a window, without repetitions if so set, refused beyond the limit;
* `Query.execute` : plan, scan once for the whole plan, evaluate;
* `Query.executeText` : the same from the text of a query. Everything but the scanner's own error is
  found before the scanner is asked, or follows from its answer.
-/

namespace SeriesQuery

structure QueryOptions where
  /-- Whether equal requests are sent once. -/
  distinctScans : Bool := true
  /-- The largest number of requests, without limit if zero. -/
  maxScans : Nat := 0
  /-- What stands for a missing label in groups. -/
  missing : String := ""
deriving DecidableEq, Repr

/-- The outputs of a query, and how much was scanned for them. -/
structure QueryReport (α : Type) where
  outputs : List (Output α)
  scanQueries : Nat
  seriesScanned : Nat

namespace Query

variable {α : Type}

def plan (options : QueryOptions) (q : Query α) (w : Window) : Except QueryError (List ScanQuery) :=
  let queries := if options.distinctScans then distinctBy id (q.queries w) else q.queries w
  if 0 < options.maxScans ∧ options.maxScans < queries.length then
    .error (.tooManyScans queries.length options.maxScans)
  else .ok queries

/-- What an answer of the scanner to `queries` makes of the query. -/
def report [Sample α] (q : Query α) (w : Window) (queries : List ScanQuery)
    (answer : Except String (Results α)) : Except QueryError (QueryReport α) := do
  match answer with
  | .error message => throw (.scan message)
  | .ok scanned =>
    return ⟨← q.evaluate w scanned.toList, queries.length, scanned.size⟩

variable {m : Type → Type} [Monad m]

def execute [Sample α] (options : QueryOptions) (scan : Scanner m α) (q : Query α) (w : Window) :
    m (Except QueryError (QueryReport α)) :=
  match q.plan options w with
  | .error e => return .error e
  | .ok queries => return q.report w queries (← scan queries)

def executeText (options : QueryOptions) (scan : Scanner m Float) (w : Window) (source : String) :
    m (Except QueryError (QueryReport Float)) :=
  match Query.ofText source options.missing with
  | .error e => return .error e
  | .ok q => q.execute options scan w

end Query

end SeriesQuery
