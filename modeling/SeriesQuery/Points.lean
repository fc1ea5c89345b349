import SeriesQuery.Merge
import SeriesQuery.Window

/-!
# Points of a series

* `Point` : a time and a value; `Points` : a sequence of them, in any order until normalized;
* `Points.ofValues`, `Points.blank` : one point for each sample time of a window;
* `Points.isSorted`, `Points.normalize` : strictly ascending times, and how to get there;
* `Points.mergePoint`, `Points.push` : one more point, merged with an equal time or not;
* `Points.rank`, `Points.slice`, `Points.valueAt` : lookups by halving, for ascending times.
-/

namespace SeriesQuery

structure Point (α : Type) where
  time : Int
  value : α
deriving DecidableEq, Repr

structure Points (α : Type) where
  toList : List (Point α)
deriving DecidableEq, Repr

/-- Where `p` first fails in `[lo, hi)`, if it holds up to some place and fails from there on. -/
def bisect (p : Nat → Bool) (lo hi : Nat) : Nat :=
  if lo < hi then
    let mid := lo + (hi - lo) / 2
    if p mid then bisect p (mid + 1) hi else bisect p lo mid
  else lo
termination_by hi - lo

namespace Points

def empty : Points α := ⟨[]⟩

def times (ps : Points α) : List Int := ps.toList.map (·.time)

def values (ps : Points α) : List α := ps.toList.map (·.value)

def size (ps : Points α) : Nat := ps.toList.length

/-! ## Points over a window -/

/-- The values `vs` at the sample times of `w`, as far as both go. -/
def ofValues (w : Window) (vs : List α) : Points α := ⟨w.times.zipWith Point.mk vs⟩

def blank (w : Window) (v : α) : Points α := ⟨w.times.map (⟨·, v⟩)⟩

/-- The same times, every value `v`. -/
def fill (ps : Points α) (v : α) : Points α := ⟨ps.toList.map ({ · with value := v })⟩

/-! ## Growing and ordering -/

def push (ps : Points α) (p : Point α) : Points α := ⟨ps.toList ++ [p]⟩

def mergeInto (f : α → α → α) (p : Point α) : List (Point α) → List (Point α)
  | [] => [p]
  | q :: qs => if q.time = p.time then { q with value := f q.value p.value } :: qs
    else q :: mergeInto f p qs

/-- Merged into the first point of the same time, or appended. -/
def mergePoint (f : α → α → α) (ps : Points α) (p : Point α) : Points α :=
  ⟨mergeInto f p ps.toList⟩

/-- Merges neighbours of one time, from the left. -/
def foldRuns (f : α → α → α) : List (Point α) → List (Point α)
  | [] => []
  | [p] => [p]
  | p :: q :: qs =>
    if p.time = q.time then foldRuns f ({ p with value := f p.value q.value } :: qs)
    else p :: foldRuns f (q :: qs)
termination_by ps => ps.length

/-- Sorted by time, equal times merged in the order they stood in. -/
def normalize (f : α → α → α) (ps : Points α) : Points α :=
  ⟨foldRuns f (ps.toList.mergeSort fun p q => p.time ≤ q.time)⟩

/-- Times ascend strictly. -/
def isSorted (ps : Points α) : Bool :=
  (ps.times.zip ps.times.tail).all fun (s, t) => s < t

/-! ## Lookup -/

/-- How many points come before the first that does not satisfy `p`, found by halving. -/
def rankBy (ps : Points α) (p : Int → Bool) : Nat :=
  bisect (fun i => (ps.toList[i]?).any fun q => p q.time) 0 ps.size

/-- The number of points before the time `t`. -/
def rank (ps : Points α) (t : Int) : Nat := ps.rankBy (· < t)

/-- The points with times in `[start, stop)`. -/
def slice (ps : Points α) (start stop : Int) : Points α :=
  ⟨(ps.toList.take (ps.rank stop)).drop (ps.rank start)⟩

/-- The value at `t`, NaN if no point has that time. -/
def valueAt [Sample α] (ps : Points α) (t : Int) : α :=
  match ps.rankBy (· ≤ t) with
  | 0 => Sample.nan
  | i + 1 =>
    match ps.toList[i]? with
    | some p => if p.time = t then p.value else Sample.nan
    | none => Sample.nan

end Points

end SeriesQuery
