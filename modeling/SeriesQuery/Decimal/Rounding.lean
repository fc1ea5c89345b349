/-!
# Quotients to the nearest whole number

* `Tie` : which of its two neighbours an exact half goes to;
* `roundDiv tie num den` : `num / den`, rounded.
-/

namespace SeriesQuery

inductive Tie where
  /-- The even neighbour. -/
  | even
  /-- The greater neighbour. -/
  | up
deriving DecidableEq, Repr

/-- What the half above `below` goes to. -/
def Tie.settle (tie : Tie) (below : Nat) : Nat :=
  match tie with
  | .even => if below % 2 = 0 then below else below + 1
  | .up => below + 1

def roundDiv (tie : Tie) (num den : Nat) : Nat :=
  let below := num / den
  let twiceOver := 2 * (num % den)
  if twiceOver < den then below
  else if twiceOver > den then below + 1
  else tie.settle below

end SeriesQuery
