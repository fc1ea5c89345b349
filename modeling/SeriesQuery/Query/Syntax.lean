import SeriesQuery.Decimal.Text
import SeriesQuery.Merge
import SeriesQuery.Text.Position
import SeriesQuery.Text.Quoted
import SeriesQuery.Window

/-!
# Syntax of queries

* `Predicate`, `LabelMatch` : conditions on labels as written, `Predicate.text`;
* `Bracket` : an offset or a step behind an expression, `Bracket.text`;
* `Expr` : expressions, `Expr.text` prints one the way names of outputs show it;
* `GroupArgs`, `Clause`, `Statement` : what a query is a list of.

Times are in milliseconds. Texts that were read keep the place they were read from.
-/

namespace SeriesQuery

open Text (Located)

/-! ## Conditions -/

inductive Predicate where
  | value (s : String)
  /-- `!name(arg)`. -/
  | call (name arg : String)
deriving DecidableEq

/-- The alternatives for one label. -/
structure LabelMatch where
  label : String
  predicates : List (Located Predicate)
deriving DecidableEq

/-- What a value may hold without quotes. -/
def isValueChar (c : Char) : Bool :=
  Text.isAlphanumeric c || ['_', '.', '-', '/', '@'].contains c

def Predicate.text : Predicate → String
  | .value s => if s != "" && s.toList.all isValueChar then s else Text.quote s
  | .call name arg => "!" ++ name ++ "(" ++ Text.quote arg ++ ")"

def LabelMatch.text (m : LabelMatch) : String :=
  m.label ++ ": " ++ "|".intercalate (m.predicates.map (·.node.text))

/-! ## Brackets -/

inductive Bracket where
  | offset (ms : Int)
  | step (ms : Int)
deriving DecidableEq

/-- Units by their letter, the largest first. -/
def Time.units : List (Int × Char) :=
  [(week, 'w'), (day, 'd'), (hour, 'h'), (minute, 'm'), (second, 's')]

/-- A duration in the largest unit that divides it, zero in seconds. -/
def Time.inUnits (ms : Int) : Int × Char :=
  match units.find? fun u => ms ≠ 0 && ms % u.1 = 0 with
  | some (unit, letter) => (ms.tdiv unit, letter)
  | none => (ms.tdiv second, 's')

/-- A step of one unit is written without its number. -/
def Bracket.text : Bracket → String
  | .offset ms => let (n, u) := Time.inUnits ms; s!"[{n}:{u}]"
  | .step ms =>
    match Time.inUnits ms with
    | (1, u) => s!"[{u}]"
    | (n, u) => s!"[{n}{u}]"

/-! ## Expressions -/

inductive Expr where
  | event (name : String) (labels : List LabelMatch)
  | number (v : Float)
  /-- `!name{args}`. -/
  | call (name : String) (args : List (Located Expr))
  | binary (op : Merger) (lhs rhs : Located Expr)
  | shift (e : Located Expr) (bracket : Bracket)
  | paren (e : Located Expr)

namespace Expr

mutual

def text : Expr → String
  | .event name labels =>
    if labels.isEmpty then name
    else name ++ "\x7b" ++ ", ".intercalate (labels.map (·.text)) ++ "\x7d"
  | .number v => plainText v
  | .call name args => "!" ++ name ++ "\x7b" ++ ", ".intercalate (texts args) ++ "\x7d"
  | .binary op lhs rhs => lhs.node.text ++ " " ++ op.symbol ++ " " ++ rhs.node.text
  | .shift e bracket => e.node.text ++ bracket.text
  | .paren e => "(" ++ e.node.text ++ ")"

def texts : List (Located Expr) → List String
  | [] => []
  | e :: es => e.node.text :: texts es

end

end Expr

/-! ## Statements -/

/-- Arguments of a grouping clause. -/
structure GroupArgs where
  labels : List String := []
  /-- How bare events are reduced. -/
  reduction : Option (Located String) := none
  /-- What stands for a missing label. -/
  missing : Option String := none
deriving DecidableEq

/-- Clauses hold for the block they stand in and for the blocks inside it. -/
inductive Clause where
  | filter (labels : List LabelMatch)
  | group (args : GroupArgs)
  | offset (ms : Int)
deriving DecidableEq

inductive Statement where
  | expr (name : Option String) (e : Located Expr)
  | block (body : List (Located Statement))
  | clause (c : Clause)

end SeriesQuery
