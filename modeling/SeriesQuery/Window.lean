/-!
# Sampled windows

A window is a half-open interval of time that is sampled once every step. Times are integers that
count milliseconds and fit into 64 bits.

* `Time.saturate`, `Time.checked?` : the two ways of keeping a sum within 64 bits;
* `Time.floorTo step t` : the last multiple of `step` up to `t`;
* `Window` : `start`, `stop` and `step`;
* `Window.count`, `Window.times` : how many samples, and at which times;
* `Window.shift`, `Window.withStep` : moved, or sampled at another interval;
* `Window.contains`, `Window.truncate` : where a stored point is counted;
* `Window.relate w v` : how `v` lies to `w`.
-/

namespace SeriesQuery

/-! ## Times -/

namespace Time

def least : Int := -9223372036854775808

def greatest : Int := 9223372036854775807

/-- The nearest time within 64 bits. -/
def saturate (t : Int) : Int := max least (min t greatest)

def fits (t : Int) : Bool := least ≤ t && t ≤ greatest

def checked? (t : Int) : Option Int := if fits t then some t else none

/-- Remainders are never negative, so this rounds down before the epoch as well as after it. -/
def floorTo (step t : Int) : Int := t - t % step

def second : Int := 1000
def minute : Int := 60 * second
def hour : Int := 60 * minute
def day : Int := 24 * hour
def week : Int := 7 * day

end Time

/-! ## Windows -/

structure Window where
  start : Int
  /-- The first time past the window. -/
  stop : Int
  step : Int
deriving DecidableEq, Repr

/-- How a second window lies to a first one of the same step. -/
inductive Relation where
  | equal
  /-- The second lies inside the first. -/
  | between
  /-- The second contains the first. -/
  | around
  | before
  | after
  | overlapsBefore
  | overlapsAfter
  /-- The steps differ. -/
  | incomparable
deriving DecidableEq, Repr

namespace Window

/-- Whole steps that fit; none without a positive step and a positive length, which is taken to be
within 64 bits. -/
def count (w : Window) : Nat :=
  if w.step ≤ 0 ∨ w.stop ≤ w.start then 0 else ((w.stop - w.start) / w.step).toNat

/-- A time on the step boundary at or before `t`. -/
def truncate (w : Window) (t : Int) : Int :=
  if w.step ≤ 0 then t else Time.floorTo w.step t

/-- The first sample time, which may lie before the start. -/
def first (w : Window) : Int := w.truncate w.start

/-- The sample times, ascending, from the boundary at or before the start on. -/
def times (w : Window) : List Int :=
  (List.range w.count).map fun (i : Nat) => w.first + i * w.step

def shift (w : Window) (offset : Int) : Window :=
  { w with start := Time.saturate (w.start + offset), stop := Time.saturate (w.stop + offset) }

def withStep (w : Window) (step : Int) : Window := { w with step }

def contains (w : Window) (t : Int) : Bool := w.start ≤ t && t < w.stop

def relate (w v : Window) : Relation :=
  if w.step ≠ v.step then .incomparable
  else if v.start = w.start ∧ v.stop = w.stop then .equal
  else if v.stop ≤ w.start then .before
  else if v.start ≥ w.stop then .after
  else if v.start ≤ w.start ∧ v.stop ≥ w.stop then .around
  else if v.start ≥ w.start ∧ v.stop ≤ w.stop then .between
  else if v.start < w.start then .overlapsBefore
  else .overlapsAfter

end Window

end SeriesQuery
