/-!
# Sample values

* `Sample α` : the arithmetic that merging and reducing samples is written in: numbers, the two
  infinities, and NaN for a missing sample;
* the instance on `Float`, which stored and scanned data use.
-/

namespace SeriesQuery

class Sample (α : Type) where
  nan : α
  isNaN : α → Bool
  posInf : α
  negInf : α
  ofInt : Int → α
  add : α → α → α
  sub : α → α → α
  mul : α → α → α
  div : α → α → α
  /-- False whenever one side is NaN. -/
  less : α → α → Bool

namespace Sample

variable [Sample α]

def zero : α := ofInt 0

def one : α := ofInt 1

end Sample

instance : Sample Float where
  nan := 0.0 / 0.0
  isNaN x := x.isNaN
  posInf := 1.0 / 0.0
  negInf := -1.0 / 0.0
  ofInt := Float.ofInt
  add := (· + ·)
  sub := (· - ·)
  mul := (· * ·)
  div := (· / ·)
  less x y := x < y

end SeriesQuery
