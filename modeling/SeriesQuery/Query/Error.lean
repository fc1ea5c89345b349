import SeriesQuery.Text.Position

/-!
# Errors of a query

* `ParseFault`, `Arity`, `QueryError` : what can be wrong with a query, or with running it;
* `QueryError.position?` : where in its text, for errors found while reading it;
* `QueryError.message`.
-/

namespace SeriesQuery

open Text (Position)

inductive ParseFault where
  /-- The text goes on with something that does not belong there. -/
  | unexpected (snippet : String)
  | endOfInput
  /-- The offsets on an expression add up to more than 64 bits hold. -/
  | offsetOutOfRange (expr : String)
  /-- A plain reduction was given an expression. -/
  | takesEvent (name reduction : String)
deriving DecidableEq, Repr

inductive Arity where
  | exactlyOne
  | atLeastOne
deriving DecidableEq, Repr

inductive QueryError where
  | parse (pos : Position) (fault : ParseFault)
  | unknownOperator (pos : Position) (name : String)
  | wrongArity (pos : Position) (name : String) (expected : Arity) (got : Nat)
  | invalidRegexp (pos : Position) (pattern : String)
  | operandSizes (left right : Nat)
  | tooManyScans (count limit : Nat)
  /-- The scanner's own message. -/
  | scan (message : String)
deriving DecidableEq, Repr

def ParseFault.message : ParseFault → String
  | .unexpected snippet => "unexpected input: '" ++ snippet ++ "'"
  | .endOfInput => "unexpected end of input"
  | .offsetOutOfRange expr => "offset out of range in '" ++ expr ++ "'"
  | .takesEvent name reduction =>
    s!"!{name} takes an event; use !zip{reduction} or !v{reduction} for expressions"

def Arity.text : Arity → String
  | .exactlyOne => "exactly 1 argument"
  | .atLeastOne => "at least 1 argument"

namespace QueryError

def position? : QueryError → Option Position
  | .parse pos _ | .unknownOperator pos _ | .wrongArity pos _ _ _ | .invalidRegexp pos _ => some pos
  | .operandSizes .. | .tooManyScans .. | .scan _ => none

def message : QueryError → String
  | .parse pos fault => s!"Parse error at {pos.text}: " ++ fault.message
  | .unknownOperator pos name => s!"Invalid operator at {pos.text}: {name}"
  | .wrongArity pos name expected got =>
    s!"Invalid arity at {pos.text}: !{name} expects {expected.text}, got {got}"
  | .invalidRegexp pos pattern => s!"Invalid regexp at {pos.text}: {pattern}"
  | .operandSizes left right => s!"Invalid operand size: {left} != {right}"
  | .tooManyScans count limit => s!"Too many scan queries: {count} exceeds limit of {limit}"
  | .scan message => message

end QueryError

end SeriesQuery
