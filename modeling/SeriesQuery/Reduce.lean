import SeriesQuery.Sample
import SeriesQuery.Text.Case

/-!
# Reducing samples to one value

* `Reduction` : sum, count, minimum, maximum and average;
* `Reducer` : one running reduction; the average carries a total beside the accumulator;
* `Reduction.start` : the only way to a reducer, so that each begins with nothing carried;
* `Reducer.zero`, `Reducer.step`, `Reducer.reset` : the first accumulator, one more sample, and
  readiness for unrelated samples;
* `Reducer.run`, `Reduction.apply` : all samples of a list, by a given reducer or a new one;
* `Reducer.runEach` : many lists by one reducer, reset before each.
-/

namespace SeriesQuery

inductive Reduction where
  /-- Missing samples are skipped. -/
  | sum
  /-- Missing samples are counted. -/
  | count
  | min
  | max
  /-- The mean of the samples that are not missing. -/
  | avg
deriving DecidableEq, Repr

inductive Reducer (α : Type) where
  | sum
  | count
  | min
  | max
  | avg (total : α) (seen : Nat)

namespace Reduction

def name : Reduction → String
  | .sum => "sum"
  | .count => "count"
  | .min => "min"
  | .max => "max"
  | .avg => "avg"

/-- The names in data: exact, without the alias of the query language. -/
def ofExactName? : String → Option Reduction
  | "sum" => some .sum
  | "count" => some .count
  | "min" => some .min
  | "max" => some .max
  | "avg" => some .avg
  | _ => none

/-- The names in a query, in any letter case. -/
def ofName? (s : String) : Option Reduction :=
  match Text.lower s with
  | "average" => some .avg
  | s => ofExactName? s

end Reduction

variable [Sample α]

def Reduction.start : Reduction → Reducer α
  | .sum => .sum
  | .count => .count
  | .min => .min
  | .max => .max
  | .avg => .avg Sample.zero 0

namespace Reducer

def zero : Reducer α → α
  | .sum | .count => Sample.zero
  | .min => Sample.posInf
  | .max => Sample.negInf
  | .avg .. => Sample.nan

/-- The accumulator after `v`, and the reducer for the sample after it. -/
def step : Reducer α → α → α → α × Reducer α
  | .sum, acc, v => (if Sample.isNaN v then acc else Sample.add acc v, .sum)
  | .count, acc, _ => (Sample.add acc Sample.one, .count)
  | .min, acc, v => (if Sample.less v acc then v else acc, .min)
  | .max, acc, v => (if Sample.less acc v then v else acc, .max)
  | .avg total seen, acc, v =>
    if Sample.isNaN v then (acc, .avg total seen)
    else
      let total := Sample.add total v
      (Sample.div total (Sample.ofInt (seen + 1)), .avg total (seen + 1))

def reset : Reducer α → Reducer α
  | .avg .. => .avg Sample.zero 0
  | r => r

def run (r : Reducer α) (acc : α) : List α → α × Reducer α
  | [] => (acc, r)
  | v :: vs => let (acc, r) := r.step acc v; r.run acc vs

/-- The value of each column; what is carried is cleared before each. -/
def runEach (r : Reducer α) : List (List α) → List α
  | [] => []
  | column :: columns =>
    let r := r.reset
    let (value, r) := r.run r.zero column
    value :: r.runEach columns

end Reducer

def Reduction.apply (f : Reduction) (vs : List α) : α := (f.start.run f.start.zero vs).1

end SeriesQuery
