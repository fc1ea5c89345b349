import SeriesQuery.Scan

/-!
# A store of points

* `StoredPoint`, `Store` : points of each event in the order they came in, with sorted fields;
* `Store.insert`, `Store.insertRecords`, `Store.storeSnapshot` : three ways of writing;
* `Store.scan` : the series that a list of requests asks for, points of one step added up;
* `StoreError` : a snapshot whose rows do not fit its labels, or a request without a positive step.
-/

namespace SeriesQuery

/-! ## What is written -/

structure StoredPoint (α : Type) where
  time : Int
  fields : Fields
  value : α
deriving DecidableEq, Repr

/-- A point as collected, its fields in order of their labels. -/
structure Record (α : Type) where
  event : String
  fields : Index String
  time : Int
  value : α

structure Counter where
  /-- One value for each label of the snapshot. -/
  values : List String
  count : Int
deriving DecidableEq, Repr

/-- Counters of one event at one time. -/
structure Snapshot where
  time : Int
  labels : List String
  counters : List Counter
deriving DecidableEq, Repr

inductive StoreError where
  | valueCount (event : String) (got expected : Nat)
  | invalidStep (event : String) (step : Int)
deriving DecidableEq, Repr

def StoreError.message : StoreError → String
  | .valueCount event got expected => s!"Counter for {event} has {got} values, expected {expected}"
  | .invalidStep event step => s!"Invalid step {step} for event {event}"

/-! ## The store -/

structure Store (α : Type) where
  events : Index (List (StoredPoint α))

namespace Store

variable {α : Type}

def empty : Store α := ⟨.empty⟩

/-- The number of points. -/
def size (s : Store α) : Nat := (s.events.toList.map (·.2.length)).foldl (· + ·) 0

def pointsOf (s : Store α) (event : String) : List (StoredPoint α) :=
  (s.events.find? event).getD []

/-- Points behind those of the event, which is there from then on. -/
def append (s : Store α) (event : String) (points : List (StoredPoint α)) : Store α :=
  ⟨s.events.update event fun old => old.getD [] ++ points⟩

def insert (s : Store α) (event : String) (fields : Fields) (time : Int) (value : α) : Store α :=
  s.append event [⟨time, fields.sort, value⟩]

def insertRecord (s : Store α) (r : Record α) : Store α :=
  s.append r.event [⟨r.time, .ofPairs r.fields.toList, r.value⟩]

def insertRecords (s : Store α) (rs : List (Record α)) : Store α := rs.foldl insertRecord s

variable [Sample α]

/-- The point of one row. -/
def counterPoint (event : String) (snapshot : Snapshot) (c : Counter) :
    Except StoreError (StoredPoint α) :=
  if c.values.length ≠ snapshot.labels.length then
    .error (.valueCount event c.values.length snapshot.labels.length)
  else
    .ok ⟨snapshot.time, (Fields.ofPairs (snapshot.labels.zip c.values)).sort,
      Sample.ofInt c.count⟩

/-- All rows of a snapshot, or none if one of them does not fit. -/
def storeSnapshot (s : Store α) (event : String) (snapshot : Snapshot) :
    Except StoreError (Store α) := do
  return s.append event (← snapshot.counters.mapM (counterPoint event snapshot))

/-! ## Scanning -/

/-- A point that the request asks for, at the sample time it is counted at. -/
def count (q : ScanQuery) (found : Results α) (p : StoredPoint α) : Results α :=
  if q.window.contains p.time && q.filter.accepts p.fields then
    found.add q.event q.window p.fields ⟨q.window.truncate p.time, p.value⟩
  else found

/-- The points of a request, added up by series and step. -/
def scanOne (s : Store α) (q : ScanQuery) : Results α :=
  ((s.pointsOf q.event).foldl (count q) .empty).normalize

def scanFrom (s : Store α) (found : List (Series α)) :
    List ScanQuery → Except StoreError (List (Series α))
  | [] => .ok found
  | q :: qs =>
    if q.window.step ≤ 0 then .error (.invalidStep q.event q.window.step)
    else scanFrom s ((s.scanOne q).toList.foldl (pushDistinct Series.key) found) qs

/-- The series of all requests; one that several of them ask for is given once. -/
def scan (s : Store α) (qs : List ScanQuery) : Except StoreError (Results α) :=
  Results.mk <$> s.scanFrom [] qs

/-- The store as a scanner. -/
def scanner (s : Store α) {m : Type → Type} [Monad m] : Scanner m α := fun qs =>
  return (s.scan qs).mapError StoreError.message

end Store

end SeriesQuery
