import SeriesQuery.Decimal.Shortest
import SeriesQuery.Text.Digits

/-!
# Numbers as text

* `NumberStyle` : the decisions of a format for shortest digits; `NumberStyle.plain` for names and
  tables, `NumberStyle.data` for data;
* `Decimal.text style d` : the digits of `d` written in a style;
* `plainText x` : any double, as a query writes it;
* `fixedText places x` : with a fixed number of places, an exact half going to the even neighbour;
* `readNumber? cs` : a decimal number, rounded to the nearest double.
-/

namespace SeriesQuery

/-! ## Layout -/

structure NumberStyle where
  /-- Positional as long as the point stands behind more than the first and at most the second
  number of digits; always, if absent. -/
  positional : Option (Int × Int)
  /-- What whole numbers end in. -/
  wholeEnd : List Char
  /-- Of two shortest decimals that are as near. -/
  tie : Tie

namespace NumberStyle

/-- Always positional, whole numbers without a point; the greater of two as near. -/
def plain : NumberStyle := ⟨none, [], .up⟩

/-- Positional from five places to sixteen digits, and always with a point or an exponent; the even
one of two as near. -/
def data : NumberStyle := ⟨some (-5, 16), ['.', '0'], .even⟩

def isPositional (style : NumberStyle) (point : Int) : Bool :=
  style.positional.all fun (low, high) => low < point && point ≤ high

end NumberStyle

namespace Decimal

def digitsText (n : Nat) : List Char := Nat.toDigits 10 n

/-- `d` digits, of which `point` stand before the point. -/
def positionalText (wholeEnd digits : List Char) (point : Int) : List Char :=
  if point ≤ 0 then ['0', '.'] ++ List.replicate (-point).toNat '0' ++ digits
  else if digits.length ≤ point.toNat then
    digits ++ List.replicate (point.toNat - digits.length) '0' ++ wholeEnd
  else digits.take point.toNat ++ ['.'] ++ digits.drop point.toNat

/-- One digit before the point, and a signed exponent. -/
def exponentText (digits : List Char) (point : Int) : List Char :=
  let fraction := digits.drop 1
  let e := point - 1
  digits.take 1 ++ (if fraction.isEmpty then [] else '.' :: fraction) ++
    ['e', if e < 0 then '-' else '+'] ++ digitsText e.natAbs

def text (style : NumberStyle) (d : Decimal) : List Char :=
  if d.digits = 0 then '0' :: style.wholeEnd
  else
    let digits := digitsText d.digits
    let point := digits.length + d.exponent
    if style.isPositional point then positionalText style.wholeEnd digits point
    else exponentText digits point

end Decimal

/-! ## Doubles -/

def signText (x : Float) : List Char := if Binary.isNegative x then ['-'] else []

/-- The text of a double from the text of its absolute value, if that is finite. -/
def floatText (finite : Binary → List Char) (x : Float) : String :=
  if x.isNaN then "NaN"
  else if x.isInf then String.ofList (signText x ++ ['i', 'n', 'f'])
  else String.ofList (signText x ++ finite (Binary.ofFloat x))

def shortestText (style : NumberStyle) : Float → String :=
  floatText fun b => (b.shortest style.tie).text style

def plainText : Float → String := shortestText .plain

def fixedDigits (places : Nat) (b : Binary) : List Char :=
  let units :=
    roundDiv .even (b.mantissa * Nat.pow 10 places * Nat.pow 2 b.exponent.toNat)
      (Nat.pow 2 (-b.exponent).toNat)
  let digits := Decimal.digitsText units
  let digits := List.replicate (places + 1 - digits.length) '0' ++ digits
  digits.take (digits.length - places) ++ ['.'] ++ digits.drop (digits.length - places)

def fixedText (places : Nat) : Float → String := floatText (fixedDigits places)

/-! ## Reading -/

/-- `digits * 10 ^ exponent` to the nearest double. Powers that lead beyond the doubles whatever the
digits are not computed. -/
def floatOfDecimal (digits : Nat) (exponent : Int) : Float :=
  if digits = 0 then 0.0
  else if exponent > 400 then 1.0 / 0.0
  else if exponent < -(digits.log2 + 400) then 0.0
  else Float.ofScientific digits (decide (exponent < 0)) exponent.natAbs

/-- Digits with an optional point among them and an optional exponent. -/
def readMagnitude? (cs : List Char) : Option Float := do
  let whole := cs.takeWhile Char.isDigit
  let rest := cs.dropWhile Char.isDigit
  let (fraction, rest) := match rest with
    | '.' :: more => (more.takeWhile Char.isDigit, more.dropWhile Char.isDigit)
    | _ => ([], rest)
  guard !(whole.isEmpty && fraction.isEmpty)
  let exponent ← match rest with
    | [] => some 0
    | c :: more => if c = 'e' ∨ c = 'E' then readInt? more else none
  return floatOfDecimal (natOfDigits (whole ++ fraction)) (exponent - fraction.length)

/-- A number with an optional sign; infinity and NaN by name. -/
def readNumber? (cs : List Char) : Option Float :=
  let magnitude? (cs : List Char) : Option Float :=
    match (String.ofList cs).toLower with
    | "nan" => some (0.0 / 0.0)
    | "inf" | "infinity" => some (1.0 / 0.0)
    | _ => readMagnitude? cs
  match cs with
  | '-' :: cs => (magnitude? cs).map (-·)
  | '+' :: cs => magnitude? cs
  | cs => magnitude? cs

end SeriesQuery
