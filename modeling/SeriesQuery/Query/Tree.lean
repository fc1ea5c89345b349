import SeriesQuery.Query.Error
import SeriesQuery.Reduce
import SeriesQuery.Scan

/-!
# Evaluation trees

A compiled query is a tree. Its nodes put series into the output; below groups, aggregates compute
one series each.

* `Shift` : how brackets and clauses move a window, `Shift.apply`;
* `Leaf` : the series of one event that a filter accepts; `Leaf.query` asks for them and
  `Leaf.select` picks them from what was scanned;
* `Agg` : aggregates; `Agg.queries`, `Agg.accepts`, `Agg.shiftOffset?`, `Agg.shiftStep`;
* `Agg.evaluate` : the series of an aggregate over a window;
* `Group` : named aggregates, computed for each bucket of `Group.partition`;
* `Node`, `Query` : `Query.queries` in tree order, and `Query.evaluate`.
-/

namespace SeriesQuery

variable {α : Type}

/-! ## Shifts -/

structure Shift where
  /-- Added to both ends of the window. -/
  offset : Int := 0
  /-- Replaces the step. -/
  step : Option Int := none
deriving DecidableEq, Repr

namespace Shift

def apply (s : Shift) (w : Window) : Window :=
  match s.step with
  | some step => (w.shift s.offset).withStep step
  | none => w.shift s.offset

def addOffset? (s : Shift) (offset : Int) : Option Shift :=
  (Time.checked? (s.offset + offset)).map ({ s with offset := · })

def setStep (s : Shift) (step : Int) : Shift := { s with step := some step }

end Shift

/-! ## Leaves -/

structure Leaf where
  event : String
  filter : Filter
  shift : Shift := {}
deriving DecidableEq

namespace Leaf

def window (leaf : Leaf) (w : Window) : Window := leaf.shift.apply w

def query (leaf : Leaf) (w : Window) : ScanQuery := ⟨leaf.window w, leaf.event, leaf.filter⟩

/-- Whether a series belongs to the leaf, whatever its window. -/
def accepts (leaf : Leaf) (s : Series α) : Bool :=
  s.event = leaf.event && leaf.filter.accepts s.fields

/-- A series over the window `w` or inside it as it is, one around it narrowed to it, and no
other. -/
def fit? (w : Window) (s : Series α) : Option (Series α) :=
  match w.relate s.window with
  | .equal | .between => some s
  | .around => some (s.slice w)
  | _ => none

def select (leaf : Leaf) (w : Window) (scanned : List (Series α)) : List (Series α) :=
  (scanned.filter leaf.accepts).filterMap (fit? (leaf.window w))

end Leaf

/-! ## Aggregates -/

inductive Agg (α : Type) where
  /-- All series of one leaf, reduced at each time. -/
  | scan (leaf : Leaf) (reduction : Reduction)
  /-- Several aggregates, reduced index by index; one alone stands for itself. -/
  | zip (parts : List (Agg α)) (reduction : Reduction) (shift : Shift)
  /-- One aggregate, reduced to one value for all times. -/
  | collapse (part : Agg α) (reduction : Reduction)
  | op (x y : Agg α) (merger : Merger)
  | value (v : α) (shift : Shift)

namespace Agg

mutual

/-- What has to be scanned, in tree order. -/
def queries : Agg α → Window → List ScanQuery
  | .scan leaf _, w => [leaf.query w]
  | .zip parts _ shift, w => queriesOf parts (shift.apply w)
  | .collapse part _, w => part.queries w
  | .op x y _, w => x.queries w ++ y.queries w
  | .value .., _ => []

def queriesOf : List (Agg α) → Window → List ScanQuery
  | [], _ => []
  | part :: parts, w => part.queries w ++ queriesOf parts w

end

mutual

/-- Whether some leaf reads the series. -/
def accepts : Agg α → Series α → Bool
  | .scan leaf _, s => leaf.accepts s
  | .zip parts _ _, s => anyAccepts parts s
  | .collapse part _, s => part.accepts s
  | .op x y _, s => x.accepts s || y.accepts s
  | .value .., _ => false

def anyAccepts : List (Agg α) → Series α → Bool
  | [], _ => false
  | part :: parts, s => part.accepts s || anyAccepts parts s

end

/-- Moved together with all it reads; none if an offset leaves 64 bits. -/
def shiftOffset? : Agg α → Int → Option (Agg α)
  | .scan leaf f, offset =>
    (leaf.shift.addOffset? offset).map fun shift => .scan { leaf with shift } f
  | .zip parts f shift, offset => (shift.addOffset? offset).map (.zip parts f ·)
  | .collapse part f, offset => (part.shiftOffset? offset).map (.collapse · f)
  | .op x y f, offset => do
    let x ← x.shiftOffset? offset
    let y ← y.shiftOffset? offset
    return .op x y f
  | .value v shift, offset => (shift.addOffset? offset).map (.value v ·)

/-- Sampled at another interval. -/
def shiftStep : Agg α → Int → Agg α
  | .scan leaf f, step => .scan { leaf with shift := leaf.shift.setStep step } f
  | .zip parts f shift, step => .zip parts f (shift.setStep step)
  | .collapse part f, step => .collapse (part.shiftStep step) f
  | .op x y f, step => .op (x.shiftStep step) (y.shiftStep step) f
  | .value v shift, step => .value v (shift.setStep step)

/-! ## Values of aggregates -/

variable [Sample α]

/-- The first `n` columns of `rows`, NaN where a row is too short. -/
def columns : Nat → List (List α) → List (List α)
  | 0, _ => []
  | n + 1, rows => rows.map (·.headD Sample.nan) :: columns n (rows.map List.tail)

/-- The series of `name` over `w` that reduces one column at each time. -/
def reduceOver (f : Reduction) (name : String) (w : Window) (columns : List (List α)) : Series α :=
  ⟨name, .empty, w, .ofValues w ((f.start : Reducer α).runEach columns)⟩

/-- The members of a leaf, reduced at each time of its window. -/
def evaluateLeaf (leaf : Leaf) (f : Reduction) (w : Window) (scanned : List (Series α)) :
    Series α :=
  let members := leaf.select w scanned
  let own := leaf.window w
  reduceOver f leaf.event own (own.times.map fun t => members.map (·.points.valueAt t))

/-- The values of `parts`, reduced index by index over `w`. -/
def evaluateZip (f : Reduction) (w : Window) (parts : List (Series α)) : Series α :=
  reduceOver f "" w (columns w.count (parts.map (·.points.values)))

def evaluateCollapse (f : Reduction) (s : Series α) : Series α :=
  { s with points := s.points.fill (f.apply s.points.values) }

/-- Pointwise, at the times of the left operand. -/
def evaluateOp (f : Merger) (x y : Series α) : Except QueryError (Series α) :=
  if x.points.size ≠ y.points.size then .error (.operandSizes x.points.size y.points.size)
  else
    .ok { x with
      points := ⟨x.points.toList.zipWith
        (fun p q => { p with value := f.merge p.value q.value }) y.points.toList⟩ }

mutual

def evaluate : Agg α → Window → List (Series α) → Except QueryError (Series α)
  | .scan leaf f, w, scanned => .ok (evaluateLeaf leaf f w scanned)
  | .zip [only] _ shift, w, scanned => only.evaluate (shift.apply w) scanned
  | .zip parts f shift, w, scanned => do
    return evaluateZip f (shift.apply w) (← evaluateAll parts (shift.apply w) scanned)
  | .collapse part f, w, scanned => do
    return evaluateCollapse f (← part.evaluate w scanned)
  | .op x y f, w, scanned => do
    let x ← x.evaluate w scanned
    let y ← y.evaluate w scanned
    evaluateOp f x y
  | .value v shift, w, _ =>
    let own := shift.apply w
    .ok ⟨"", .empty, own, .blank own v⟩

def evaluateAll : List (Agg α) → Window → List (Series α) → Except QueryError (List (Series α))
  | [], _, _ => .ok []
  | part :: parts, w, scanned => do
    let s ← part.evaluate w scanned
    let ss ← evaluateAll parts w scanned
    return s :: ss

end

end Agg

/-! ## Outputs -/

inductive Output (α : Type) where
  /-- A scanned series as it is. -/
  | raw (s : Series α)
  /-- A series that a group computed. -/
  | computed (s : Series α)
deriving DecidableEq, Repr

namespace Output

def series : Output α → Series α
  | .raw s | .computed s => s

def kind : Output α → String
  | .raw _ => "raw"
  | .computed _ => "computed"

end Output

/-! ## Groups -/

structure Named (α : Type) where
  name : String
  agg : Agg α

structure Group (α : Type) where
  nodes : List (Named α)
  /-- Without labels there is one group. -/
  labels : List String
  /-- What stands for a missing label. -/
  missing : String
  /-- How bare events are reduced. -/
  reduction : Reduction

namespace Group

def accepts (g : Group α) (s : Series α) : Bool := g.nodes.any (·.agg.accepts s)

def key (g : Group α) (s : Series α) : Fields := s.fields.project g.missing g.labels

/-- `s` joins the bucket of its key, or begins it. -/
def addTo (key : Fields) (s : Series α) :
    List (Fields × List (Series α)) → List (Fields × List (Series α))
  | [] => [(key, [s])]
  | (k, members) :: buckets =>
    if k = key then (k, members ++ [s]) :: buckets else (k, members) :: addTo key s buckets

/-- The series that the group reads by their keys, buckets in the order of their first series. -/
def partition (g : Group α) (scanned : List (Series α)) : List (Fields × List (Series α)) :=
  (scanned.filter g.accepts).foldl (fun buckets s => addTo (g.key s) s buckets)
    (if g.labels.isEmpty then [(.empty, [])] else [])

def queries (g : Group α) (w : Window) : List ScanQuery := g.nodes.flatMap (·.agg.queries w)

variable [Sample α]

/-- A computed series has the name of its aggregate, the key of its bucket and the window asked
for. -/
def evaluateNamed (w : Window) (key : Fields) (members : List (Series α)) (n : Named α) :
    Except QueryError (Output α) := do
  let s ← n.agg.evaluate w members
  return .computed { s with event := n.name, fields := key, window := w }

def evaluate (g : Group α) (w : Window) (scanned : List (Series α)) :
    Except QueryError (List (Output α)) := do
  let outputs ← (g.partition scanned).mapM fun (key, members) =>
    g.nodes.mapM (evaluateNamed w key members)
  return outputs.flatten

end Group

/-! ## Queries -/

inductive Node (α : Type) where
  | scan (leaf : Leaf)
  | group (g : Group α)
  | block (nodes : List (Node α))

namespace Node

mutual

def queries : Node α → Window → List ScanQuery
  | .scan leaf, w => [leaf.query w]
  | .group g, w => g.queries w
  | .block nodes, w => queriesOf nodes w

def queriesOf : List (Node α) → Window → List ScanQuery
  | [], _ => []
  | node :: nodes, w => node.queries w ++ queriesOf nodes w

end

variable [Sample α]

mutual

def evaluate : Node α → Window → List (Series α) → Except QueryError (List (Output α))
  | .scan leaf, w, scanned => .ok ((leaf.select w scanned).map .raw)
  | .group g, w, scanned => g.evaluate w scanned
  | .block nodes, w, scanned => evaluateAll nodes w scanned

def evaluateAll : List (Node α) → Window → List (Series α) → Except QueryError (List (Output α))
  | [], _, _ => .ok []
  | node :: nodes, w, scanned => do
    let outputs ← node.evaluate w scanned
    let more ← evaluateAll nodes w scanned
    return outputs ++ more

end

end Node

structure Query (α : Type) where
  nodes : List (Node α)

namespace Query

/-- All that has to be scanned, repetitions included. -/
def queries (q : Query α) (w : Window) : List ScanQuery := Node.queriesOf q.nodes w

/-- The outputs over `w`; of scanned series with the same key the first one counts. -/
def evaluate [Sample α] (q : Query α) (w : Window) (scanned : List (Series α)) :
    Except QueryError (List (Output α)) :=
  Node.evaluateAll q.nodes w (distinctBy Series.key scanned)

end Query

end SeriesQuery
