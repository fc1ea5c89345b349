import SeriesQuery.Fields
import SeriesQuery.Points

/-!
# Series

* `distinctBy key xs` : the first element of each key, in order;
* `Series` : an event's points for one set of fields, sampled over a window;
* `Series.key` : what tells scanned series apart;
* `Series.slice` : narrowed to the sample times of a window;
* `Results` : a collection of series; `Results.add` puts a point into the series of its event and
  fields, whose points of one time add up.
-/

namespace SeriesQuery

/-! ## First occurrences -/

section Distinct

variable {α κ : Type} [DecidableEq κ]

/-- `x` is appended unless its key is taken. -/
def pushDistinct (key : α → κ) (xs : List α) (x : α) : List α :=
  if xs.any (key · = key x) then xs else xs ++ [x]

def distinctBy (key : α → κ) (xs : List α) : List α := xs.foldl (pushDistinct key) []

end Distinct

/-! ## One series -/

structure Series (α : Type) where
  event : String
  fields : Fields
  /-- What the points were sampled over. -/
  window : Window
  points : Points α
deriving DecidableEq, Repr

namespace Series

structure Key where
  event : String
  fields : Fields
  window : Window
deriving DecidableEq

variable {α : Type}

def key (s : Series α) : Key := ⟨s.event, s.fields, s.window⟩

/-- The points from the first sample time of `w` to the end of its last whole step. -/
def slice (s : Series α) (w : Window) : Series α :=
  let stop :=
    if w.step > 0 then Time.saturate (w.first + Time.saturate (w.count * w.step)) else w.stop
  { s with window := w, points := s.points.slice w.first stop }

def isOf (s : Series α) (event : String) (fields : Fields) : Bool :=
  s.event = event && s.fields = fields

end Series

/-! ## Collections -/

structure Results (α : Type) where
  toList : List (Series α)
deriving DecidableEq, Repr

namespace Results

variable {α : Type}

def empty : Results α := ⟨[]⟩

def size (rs : Results α) : Nat := rs.toList.length

def find? (rs : Results α) (event : String) (fields : Fields) : Option (Series α) :=
  rs.toList.find? (·.isOf event fields)

/-- Whether a series of the same event, fields and window is there. -/
def contains (rs : Results α) (s : Series α) : Bool := rs.toList.any (·.key = s.key)

def append (rs : Results α) (more : List (Series α)) : Results α := ⟨rs.toList ++ more⟩

variable [Sample α]

def addTo (event : String) (w : Window) (fields : Fields) (p : Point α) :
    List (Series α) → List (Series α)
  | [] => [⟨event, fields, w, Points.empty.mergePoint Merger.add.merge p⟩]
  | s :: ss =>
    if s.isOf event fields then
      { s with points := s.points.mergePoint Merger.add.merge p } :: ss
    else s :: addTo event w fields p ss

/-- Into the first series of the event and fields; a new series has the window `w`. -/
def add (rs : Results α) (event : String) (w : Window) (fields : Fields) (p : Point α) :
    Results α :=
  ⟨addTo event w fields p rs.toList⟩

def normalize (rs : Results α) : Results α :=
  ⟨rs.toList.map fun s => { s with points := s.points.normalize Merger.add.merge }⟩

end Results

end SeriesQuery
