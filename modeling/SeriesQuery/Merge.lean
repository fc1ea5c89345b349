import SeriesQuery.Sample

/-!
# Merging two samples

* `Merger` : the four pointwise operations of the query language;
* `Merger.merge` : applied to two samples; addition ignores a missing sample, the others do not;
* `Merger.symbol`, `Merger.ofSymbol?` : as written in a query;
* `Merger.name`, `Merger.ofName?` : as written in data.
-/

namespace SeriesQuery

inductive Merger where
  | add
  | sub
  | mul
  | div
deriving DecidableEq, Repr

namespace Merger

/-- NaN is the identity of addition. -/
def merge [Sample α] : Merger → α → α → α
  | .add, a, b =>
    if Sample.isNaN a then b else if Sample.isNaN b then a else Sample.add a b
  | .sub, a, b => Sample.sub a b
  | .mul, a, b => Sample.mul a b
  | .div, a, b => Sample.div a b

def symbol : Merger → String
  | .add => "+"
  | .sub => "-"
  | .mul => "*"
  | .div => "/"

def ofSymbol? : String → Option Merger
  | "+" => some .add
  | "-" => some .sub
  | "*" => some .mul
  | "/" => some .div
  | _ => none

def name : Merger → String
  | .add => "add"
  | .sub => "sub"
  | .mul => "mul"
  | .div => "div"

def ofName? : String → Option Merger
  | "add" => some .add
  | "sub" => some .sub
  | "mul" => some .mul
  | "div" => some .div
  | _ => none

end Merger

end SeriesQuery
