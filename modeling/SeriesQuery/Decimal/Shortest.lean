import SeriesQuery.Decimal.Rounding

/-!
# The fewest digits that read back

* `Binary` : a finite double without its sign, `mantissa * 2 ^ exponent`;
* `Binary.ofFloat x` : read off the bits of `x`;
* `Decimal` : `digits * 10 ^ exponent`;
* `Binary.shortest tie b` : of the decimals that round to `b` one of the fewest digits, and of those
  the nearest to it. Of two as near the tie decides.

A decimal rounds to `b` if it lies between the middles to the two neighbours of `b`; the middles
count if the mantissa is even. If a multiple of `10 ^ k` lies there, so does one of the two around
`b` itself, so it is enough to look at these, for one `k` after the other from above.
-/

namespace SeriesQuery

structure Binary where
  mantissa : Nat
  exponent : Int
deriving DecidableEq, Repr

structure Decimal where
  digits : Nat
  exponent : Int
deriving DecidableEq, Repr

namespace Binary

/-- The exponent of the smallest doubles. -/
def leastExponent : Int := -1074

/-- The mantissa without its implied bit. -/
def fraction (x : Float) : Nat := x.toBits.toNat % Nat.pow 2 52

def biasedExponent (x : Float) : Nat := x.toBits.toNat / Nat.pow 2 52 % Nat.pow 2 11

def isNegative (x : Float) : Bool := x.toBits.toNat / Nat.pow 2 63 == 1

/-- Meaningful for finite `x`. -/
def ofFloat (x : Float) : Binary :=
  if biasedExponent x = 0 then ⟨fraction x, leastExponent⟩
  else ⟨Nat.pow 2 52 + fraction x, leastExponent + (biasedExponent x - 1)⟩

/-- The lower neighbour of a power of two is half as far away as the upper one. -/
def lowerIsNearer (b : Binary) : Bool := b.mantissa = Nat.pow 2 52 && b.exponent > leastExponent

/-- In quarters of the last place: the middle to the lower neighbour. -/
def lowerEdge (b : Binary) : Nat := 4 * b.mantissa - (if b.lowerIsNearer then 1 else 2)

/-- In quarters of the last place: the middle to the upper neighbour. -/
def upperEdge (b : Binary) : Nat := 4 * b.mantissa + 2

/-- Factors `(s, t)` such that `c * 10 ^ k` compares to `n` quarters of the last place of `b` as
`c * s` does to `n * t`. -/
def scales (b : Binary) (k : Int) : Nat × Nat :=
  let quarter := b.exponent - 2
  (Nat.pow 10 k.toNat * Nat.pow 2 (-quarter).toNat,
    Nat.pow 10 (-k).toNat * Nat.pow 2 quarter.toNat)

/-- Whether `c * 10 ^ k` rounds to `b`. -/
def covers (b : Binary) (k : Int) (c : Nat) : Bool :=
  let (s, t) := b.scales k
  if b.mantissa % 2 = 0 then b.lowerEdge * t ≤ c * s && c * s ≤ b.upperEdge * t
  else b.lowerEdge * t < c * s && c * s < b.upperEdge * t

/-- The multiple of `10 ^ k` that rounds to `b`, if there is one: of two the nearer. -/
def onGrid? (tie : Tie) (b : Binary) (k : Int) : Option Nat :=
  let (s, t) := b.scales k
  let below := 4 * b.mantissa * t / s
  match b.covers k below && below != 0, b.covers k (below + 1) with
  | true, true => some (roundDiv tie (4 * b.mantissa * t) s)
  | true, false => some below
  | false, true => some (below + 1)
  | false, false => none

/-- The first grid that has a decimal for `b`, from `10 ^ k` down. -/
def search (tie : Tie) (b : Binary) : Nat → Int → Decimal
  | 0, _ => ⟨0, 0⟩
  | n + 1, k =>
    match b.onGrid? tie k with
    | some c => ⟨c, k⟩
    | none => search tie b n (k - 1)

/-- A power of ten above `b`, by its exponent: a double has at most 17 digits from there on, and the
estimate is at most two too high. -/
def magnitude (b : Binary) : Int := (b.mantissa.log2 + b.exponent + 1) * 30103 / 100000 + 1

def shortest (tie : Tie) (b : Binary) : Decimal :=
  if b.mantissa = 0 then ⟨0, 0⟩ else b.search tie 24 b.magnitude

end Binary

end SeriesQuery
