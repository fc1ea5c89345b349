import SeriesQuery.Decimal.Text

/-!
# JSON values

* `Json` : values; a number is kept as it is written, and entries of an object in their order;
* `Json.text`, `Json.int`, `Json.float`, `Json.nat` : values of the other types;
* `Json.compact`, `Json.pretty` : a value written on one line, or indented by two blanks;
* `Json.toInt?`, `Json.toFloat?` : what a number stands for.
-/

namespace SeriesQuery

/-- Strings and keys may hold half of a surrogate pair, which stands for no text: they are
`none`. -/
inductive Json where
  | null
  | bool (b : Bool)
  | number (token : List Char)
  | string (s : Option String)
  | array (items : List Json)
  | object (entries : List (Option String × Json))

namespace Json

instance : Inhabited Json := ⟨.null⟩

/-! ## Making values -/

def text (s : String) : Json := .string (some s)

def int (n : Int) : Json := .number (toString n).toList

def nat (n : Nat) : Json := .number (toString n).toList

/-- Infinities and NaN are written as null. -/
def float (x : Float) : Json :=
  if x.isNaN || x.isInf then .null else .number (shortestText .data x).toList

def record (entries : List (String × Json)) : Json :=
  .object (entries.map fun (k, v) => (some k, v))

def texts (ss : List String) : Json := .array (ss.map text)

/-! ## Writing -/

def escapeChar (c : Char) : List Char :=
  match c with
  | '"' => ['\\', '"']
  | '\\' => ['\\', '\\']
  | '\n' => ['\\', 'n']
  | '\r' => ['\\', 'r']
  | '\t' => ['\\', 't']
  | '\x08' => ['\\', 'b']
  | '\x0c' => ['\\', 'f']
  | c =>
    if c.toNat < 32 then
      ['\\', 'u', '0', '0'] ++ Nat.toDigits 16 (c.toNat / 16) ++ Nat.toDigits 16 (c.toNat % 16)
    else [c]

/-- Half a pair has no written form of its own and is written as the replacement character. -/
def quoted (s : Option String) : List Char :=
  '"' :: (s.getD "\ufffd").toList.flatMap escapeChar ++ ['"']

mutual

def compactChars : Json → List Char
  | .null => "null".toList
  | .bool b => (if b then "true" else "false").toList
  | .number token => token
  | .string s => quoted s
  | .array [] => ['[', ']']
  | .array (item :: items) => '[' :: compactChars item ++ compactItems items
  | .object [] => ['\x7b', '\x7d']
  | .object ((key, value) :: entries) =>
    '\x7b' :: quoted key ++ ':' :: compactChars value ++ compactEntries entries

def compactItems : List Json → List Char
  | [] => [']']
  | item :: items => ',' :: compactChars item ++ compactItems items

def compactEntries : List (Option String × Json) → List Char
  | [] => ['\x7d']
  | (key, value) :: entries =>
    ',' :: quoted key ++ ':' :: compactChars value ++ compactEntries entries

end

def compact (j : Json) : String := String.ofList j.compactChars

/-- A new line at some depth. -/
def newLine (depth : Nat) : List Char := '\n' :: List.replicate (2 * depth) ' '

mutual

def prettyChars (depth : Nat) : Json → List Char
  | .null => "null".toList
  | .bool b => (if b then "true" else "false").toList
  | .number token => token
  | .string s => quoted s
  | .array [] => ['[', ']']
  | .array (item :: items) =>
    '[' :: newLine (depth + 1) ++ prettyChars (depth + 1) item ++ prettyItems depth items
  | .object [] => ['\x7b', '\x7d']
  | .object ((key, value) :: entries) =>
    '\x7b' :: newLine (depth + 1) ++ quoted key ++ [':', ' '] ++ prettyChars (depth + 1) value ++
      prettyEntries depth entries

def prettyItems (depth : Nat) : List Json → List Char
  | [] => newLine depth ++ [']']
  | item :: items =>
    ',' :: newLine (depth + 1) ++ prettyChars (depth + 1) item ++ prettyItems depth items

def prettyEntries (depth : Nat) : List (Option String × Json) → List Char
  | [] => newLine depth ++ ['\x7d']
  | (key, value) :: entries =>
    ',' :: newLine (depth + 1) ++ quoted key ++ [':', ' '] ++ prettyChars (depth + 1) value ++
      prettyEntries depth entries

end

def pretty (j : Json) : String := String.ofList (j.prettyChars 0)

/-! ## Numbers -/

/-- The digits of a number, split at its point and at its exponent. -/
structure NumberParts where
  negative : Bool
  whole : List Char
  fraction : List Char
  exponent : Option Int

/-- The parts of a well-formed token. -/
def numberParts (token : List Char) : NumberParts :=
  let negative := token.head? = some '-'
  let unsigned := if negative then token.drop 1 else token
  let behind := unsigned.dropWhile Char.isDigit
  let fraction := if behind.head? = some '.' then (behind.drop 1).takeWhile Char.isDigit else []
  let exponent := behind.dropWhile fun c => c == '.' || c.isDigit
  { negative
    whole := unsigned.takeWhile Char.isDigit
    fraction
    exponent := if exponent.isEmpty then none else readInt? (exponent.drop 1) }

/-- An integer within 64 bits; minus zero is none. -/
def toInt? : Json → Option Int
  | .number token => do
    let n ← readInt? token
    if n = 0 && token.head? = some '-' then none
    else if -Int.pow 2 63 ≤ n && n < Int.pow 2 63 then some n
    else none
  | _ => none

/-- Digits are taken into 64 bits as long as they fit; `dropped` counts the digits of the whole part
that did not. -/
def takeWhole (significand dropped : Nat) : List Char → Nat × Nat
  | [] => (significand, dropped)
  | d :: ds =>
    let next := 10 * significand + digitValue d
    if dropped = 0 && next < Nat.pow 2 64 then takeWhole next 0 ds
    else takeWhole significand (dropped + 1) ds

/-- The digits behind the point, up to the first that does not fit; `taken` counts them. -/
def takeFraction (significand taken : Nat) : List Char → Nat × Nat
  | [] => (significand, taken)
  | d :: ds =>
    let next := 10 * significand + digitValue d
    if next < Nat.pow 2 64 then takeFraction next (taken + 1) ds else (significand, taken)

def powerOfTen (n : Nat) : Float := Float.ofScientific 1 false n

/-- `f * 10 ^ exponent` in steps of at most 308 powers, each rounded. Overflow gives none, and a
large negative exponent ends in zero after a few steps. -/
def scaled? : Nat → Float → Int → Option Float
  | 0, _, _ => some 0.0
  | n + 1, f, exponent =>
    if exponent.natAbs ≤ 308 then
      if exponent < 0 then some (f / powerOfTen exponent.natAbs)
      else
        let g := f * powerOfTen exponent.natAbs
        if g.isInf then none else some g
    else if f == 0.0 then some f
    else if exponent > 0 then none
    else scaled? n (f / powerOfTen 308) (exponent + 308)

/-- The largest exponent that is taken into account. -/
def greatestExponent : Int := Int.pow 2 31 - 1

/-- A double, found from the first 64 bits of the digits by one multiplication or division, so that
its last bit can be off for numbers of many digits. -/
def toFloat? : Json → Option Float
  | .number token => do
    let parts := numberParts token
    let (whole, dropped) := takeWhole 0 0 parts.whole
    let (significand, taken) := takeFraction whole 0 parts.fraction
    let written := parts.exponent.getD 0
    let magnitude ←
      if written.natAbs > greatestExponent.natAbs then
        if significand ≠ 0 && written > 0 then none else some 0.0
      else scaled? 8 (Float.ofNat significand) (dropped - taken + written)
    return if parts.negative then -magnitude else magnitude
  | _ => none

end Json

end SeriesQuery
